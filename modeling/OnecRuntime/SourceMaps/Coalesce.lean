import OnecRuntime.SourceMaps.Lookup

/-!
# Coalescing of neighbouring segments

Neighbours with text, one relation, one region, and one anchor are joined when
their origins continue each other.  Exact and synthetic runs keep every lookup.
A derived run is reported whole, so its lookups only widen.
-/

namespace OnecRuntime.SourceMaps

open OnecRuntime.Library

/-- The joined provenance of two neighbours, when their origins continue. -/
def joinedProvenance (previous segment : SourceMapSegment) : Option Provenance :=
  match previous.provenance, segment.provenance with
  | .exact ref start region, .exact ref' start' region' =>
      if ref = ref' ∧ region = region' ∧ start + previous.generated.width = start' then
        some (.exact ref start region)
      else none
  | .derived ref origin region, .derived ref' origin' region' =>
      if continues : ref = ref' ∧ region = region' ∧ origin.stop = origin'.start then
        some (.derived ref ⟨origin.start, origin'.stop,
          Nat.le_trans origin.ordered (continues.2.2 ▸ origin'.ordered)⟩ region)
      else none
  | .synthetic region, .synthetic region' =>
      if region = region' then some (.synthetic region) else none
  | _, _ => none

/-- The segment that replaces two neighbours, when the loop joins them. -/
def joined? (previous segment : SourceMapSegment) : Option SourceMapSegment :=
  if neighbours : previous.positive = true ∧ segment.positive = true ∧
      previous.stop = segment.start ∧ previous.anchor = segment.anchor then
    (joinedProvenance previous segment).map fun provenance =>
      { generated := ⟨previous.start, segment.stop,
          Nat.le_trans previous.ordered (neighbours.2.2.1 ▸ segment.ordered)⟩,
        provenance := provenance,
        anchor := previous.anchor }
  else none

/-- The loop of `_coalesce_segments` after its first segment. -/
def coalesceFrom (previous : SourceMapSegment) : List SourceMapSegment → List SourceMapSegment
  | [] => [previous]
  | segment :: rest =>
      match joined? previous segment with
      | some whole => coalesceFrom whole rest
      | none => previous :: coalesceFrom segment rest

def coalesceSegments : List SourceMapSegment → List SourceMapSegment
  | [] => []
  | segment :: rest => coalesceFrom segment rest

/-! ## What a join keeps -/

/-- The origin of a part lies in the origin of the whole, at its own place. -/
def Provenance.Extends (whole part : Provenance) (shift : Nat) : Prop :=
  match whole, part with
  | .exact ref start region, .exact ref' start' region' =>
      ref = ref' ∧ region = region' ∧ start + shift = start'
  | .derived ref origin region, .derived ref' origin' region' =>
      ref = ref' ∧ region = region' ∧ origin.start ≤ origin'.start ∧ origin'.stop ≤ origin.stop
  | .synthetic region, .synthetic region' => region = region'
  | _, _ => False

/-- One segment reports every lookup of another one. -/
structure Absorbs (whole part : SourceMapSegment) : Prop where
  lower : whole.start ≤ part.start
  upper : part.stop ≤ whole.stop
  anchor : whole.anchor = part.anchor
  provenance : whole.provenance.Extends part.provenance (part.start - whole.start)

namespace Absorbs

theorem refl (segment : SourceMapSegment) : Absorbs segment segment := by
  refine ⟨Nat.le_refl _, Nat.le_refl _, rfl, ?_⟩
  unfold Provenance.Extends
  cases segment.provenance <;> simp

theorem trans {whole middle part : SourceMapSegment}
    (outer : Absorbs whole middle) (inner : Absorbs middle part) : Absorbs whole part := by
  refine ⟨Nat.le_trans outer.lower inner.lower, Nat.le_trans inner.upper outer.upper,
    outer.anchor.trans inner.anchor, ?_⟩
  have lowerOuter := outer.lower
  have lowerInner := inner.lower
  have first := outer.provenance
  have second := inner.provenance
  unfold Provenance.Extends at first second ⊢
  revert first second
  cases whole.provenance <;> cases middle.provenance <;> cases part.provenance <;>
    simp only [false_implies, implies_true]
  · rintro ⟨rfl, rfl, start⟩ ⟨rfl, rfl, start'⟩
    exact ⟨rfl, rfl, by omega⟩
  · rintro ⟨rfl, rfl, low, high⟩ ⟨rfl, rfl, low', high'⟩
    exact ⟨rfl, rfl, by omega, by omega⟩
  · rintro rfl rfl
    rfl

end Absorbs

/-- Two lookups agree; a derived origin may be reported wider. -/
structure SameOrigin (mapped narrow : MappedOffset) : Prop where
  relation : mapped.relation = narrow.relation
  unit : mapped.unit = narrow.unit
  region : mapped.syntheticRegion = narrow.syntheticRegion
  exactSpan : narrow.relation ≠ .derived → mapped.originSpan = narrow.originSpan
  derivedSpan : narrow.relation = .derived → ∃ wide inner,
    mapped.originSpan = some wide ∧ narrow.originSpan = some inner ∧
      wide.start ≤ inner.start ∧ inner.stop ≤ wide.stop

/-- Two lookups agree: both report the same place, or both fail with one message. -/
inductive SameLookup : SourceResult MappedOffset → SourceResult MappedOffset → Prop where
  | found {mapped narrow : MappedOffset} (origin : SameOrigin mapped narrow)
      (anchor : mapped.anchor = narrow.anchor) : SameLookup (.ok mapped) (.ok narrow)
  | failed (message : String) : SameLookup (.error message) (.error message)

/-- What `map_offset` can report: a derived place always has a span. -/
def MappedOffset.wellFormed (mapped : MappedOffset) : Prop :=
  mapped.relation = .derived → mapped.originSpan.isSome

theorem SameOrigin.refl {mapped : MappedOffset} (wellFormed : mapped.wellFormed) :
    SameOrigin mapped mapped := by
  refine ⟨rfl, rfl, rfl, fun _ => rfl, fun derived => ?_⟩
  obtain ⟨span, spanIs⟩ := Option.isSome_iff_exists.mp (wellFormed derived)
  exact ⟨span, span, spanIs, spanIs, Nat.le_refl _, Nat.le_refl _⟩

variable {offset : Nat}

theorem mappedSegment_wellFormed {segment : SourceMapSegment} {eof : Bool}
    {mapped : MappedOffset} (report : mappedSegment segment offset eof = .ok mapped) :
    mapped.wellFormed := by
  unfold mappedSegment at report
  intro derived
  split at report
  · obtain rfl := Except.ok.inj report
    cases derived
  · obtain rfl := Except.ok.inj report
    rfl
  · obtain rfl := Except.ok.inj report
    cases derived
  · cases report

variable {part : SourceMapSegment}

/-- A whole segment reports an offset of its part the way the part does. -/
theorem Absorbs.sameLookup {whole : SourceMapSegment} (absorbs : Absorbs whole part)
    (some_text : part.start < part.stop) (inside : part.start ≤ offset)
    (eof : Bool) :
    SameLookup (mappedSegment whole offset eof) (mappedSegment part offset eof) := by
  have lower := absorbs.lower
  have upper := absorbs.upper
  have extended := absorbs.provenance
  have anchors : whole.anchorUnit = part.anchorUnit := by
    unfold SourceMapSegment.anchorUnit
    rw [absorbs.anchor]
  unfold mappedSegment
  unfold Provenance.Extends at extended
  rw [anchors]
  cases partIs : part.provenance with
  | synthetic region =>
      cases wholeIs : whole.provenance with
      | synthetic region' =>
          rw [wholeIs, partIs] at extended
          cases extended
          exact .found ⟨rfl, rfl, rfl, fun _ => rfl, fun derived => by cases derived⟩ rfl
      | exact => rw [wholeIs, partIs] at extended; exact extended.elim
      | derived => rw [wholeIs, partIs] at extended; exact extended.elim
  | derived ref origin region =>
      cases wholeIs : whole.provenance with
      | derived ref' origin' region' =>
          rw [wholeIs, partIs] at extended
          obtain ⟨rfl, rfl, low, high⟩ := extended
          cases ref' with
          | unit unit =>
              exact .found ⟨rfl, rfl, rfl, fun other => (other rfl).elim,
                fun _ => ⟨_, _, rfl, rfl, low, high⟩⟩ rfl
          | artifact => exact .failed _
      | exact => rw [wholeIs, partIs] at extended; exact extended.elim
      | synthetic => rw [wholeIs, partIs] at extended; exact extended.elim
  | exact ref start region =>
      cases wholeIs : whole.provenance with
      | exact ref' start' region' =>
          rw [wholeIs, partIs] at extended
          obtain ⟨rfl, rfl, shifted⟩ := extended
          cases ref' with
          | unit unit =>
              have place : start' + (offset - whole.start) = start + (offset - part.start) := by
                omega
              have widths : (eof = true ∨ whole.start = whole.stop) ↔
                  (eof = true ∨ part.start = part.stop) := by
                constructor
                · rintro (final | empty)
                  · exact .inl final
                  · omega
                · rintro (final | empty)
                  · exact .inl final
                  · omega
              refine .found ⟨rfl, rfl, rfl, fun _ => ?_, fun derived => by cases derived⟩ rfl
              simp only [place, widths]
          | artifact => exact .failed _
      | derived => rw [wholeIs, partIs] at extended; exact extended.elim
      | synthetic => rw [wholeIs, partIs] at extended; exact extended.elim

variable {previous : SourceMapSegment}

/-- The joined segment has the bounds of the two and absorbs them both. -/
theorem joined?_spec {segment whole : SourceMapSegment}
    (join : joined? previous segment = some whole) :
    previous.start < previous.stop ∧ segment.start < segment.stop ∧
      previous.stop = segment.start ∧ whole.start = previous.start ∧
      whole.stop = segment.stop ∧ Absorbs whole previous ∧ Absorbs whole segment := by
  unfold joined? at join
  split_ifs at join with neighbours
  obtain ⟨provenance, joins, rfl⟩ := Option.map_eq_some_iff.mp join
  obtain ⟨previousText, segmentText, adjacent, anchors⟩ := neighbours
  rw [SourceMapSegment.positive, decide_eq_true_iff] at previousText segmentText
  have shift : segment.start - previous.start = previous.generated.width := by
    rw [← adjacent]
    rfl
  refine ⟨previousText, segmentText, adjacent, rfl, rfl,
    ⟨Nat.le_refl _, by change previous.stop ≤ segment.stop; omega, rfl, ?_⟩,
    ⟨by change previous.start ≤ segment.start; omega, Nat.le_refl _, anchors, ?_⟩⟩
  all_goals
    unfold joinedProvenance at joins
    unfold Provenance.Extends
    split at joins
  · split_ifs at joins with same
    obtain rfl := Option.some.inj joins
    next previousIs segmentIs =>
      rw [previousIs]
      exact ⟨rfl, rfl, by change _ + (previous.start - previous.start) = _; omega⟩
  · split_ifs at joins with same
    obtain rfl := Option.some.inj joins
    next origin _ _ origin' _ previousIs segmentIs =>
      rw [previousIs]
      have ordered := origin'.ordered
      exact ⟨rfl, rfl, Nat.le_refl _, by change origin.stop ≤ origin'.stop; omega⟩
  · split_ifs at joins with same
    obtain rfl := Option.some.inj joins
    next previousIs segmentIs => rw [previousIs]
  · cases joins
  · split_ifs at joins with same
    obtain rfl := Option.some.inj joins
    next previousIs segmentIs =>
      rw [segmentIs]
      exact ⟨same.1, same.2.1, by change _ + (segment.start - previous.start) = _; omega⟩
  · split_ifs at joins with same
    obtain rfl := Option.some.inj joins
    next origin _ _ origin' _ previousIs segmentIs =>
      rw [segmentIs]
      have ordered := origin.ordered
      exact ⟨same.1, same.2.1, by change origin.start ≤ origin'.start; omega, Nat.le_refl _⟩
  · split_ifs at joins with same
    obtain rfl := Option.some.inj joins
    next previousIs segmentIs =>
      rw [segmentIs]
      exact same
  · cases joins

variable {rest : List SourceMapSegment}

theorem coalesceFrom_covering
    {first last : Nat} (covering : Covering first last (previous :: rest)) :
    Covering first last (coalesceFrom previous rest) := by
  induction rest generalizing previous first with
  | nil => exact covering
  | cons segment rest ih =>
      obtain ⟨start, ordered, middle, inner, after⟩ := covering
      unfold coalesceFrom
      cases join : joined? previous segment with
      | some whole =>
          obtain ⟨_, _, adjacent, starts, stops, _, _⟩ := joined?_spec join
          have whole_ordered := whole.ordered
          exact ih ⟨by omega, by omega, stops ▸ after⟩
      | none => exact ⟨start, ordered, ih ⟨middle, inner, after⟩⟩

/-- Every segment with text is absorbed by a segment of the coalesced list. -/
theorem coalesceFrom_absorbs (member : part ∈ previous :: rest) :
    ∃ whole ∈ coalesceFrom previous rest, Absorbs whole part := by
  induction rest generalizing previous part with
  | nil =>
      obtain rfl := List.mem_singleton.mp member
      exact ⟨part, List.mem_singleton.mpr rfl, .refl part⟩
  | cons segment rest ih =>
      unfold coalesceFrom
      cases join : joined? previous segment with
      | some whole =>
          obtain ⟨_, _, _, _, _, absorbsPrevious, absorbsSegment⟩ := joined?_spec join
          obtain ⟨outer, inside, absorbs⟩ := ih (List.mem_cons_self (a := whole))
          rcases List.mem_cons.mp member with rfl | later
          · exact ⟨outer, inside, absorbs.trans absorbsPrevious⟩
          · rcases List.mem_cons.mp later with rfl | later
            · exact ⟨outer, inside, absorbs.trans absorbsSegment⟩
            · exact ih (List.mem_cons_of_mem _ later)
      | none =>
          rcases List.mem_cons.mp member with rfl | later
          · exact ⟨part, List.mem_cons_self .., .refl part⟩
          · obtain ⟨outer, inside, absorbs⟩ := ih later
            exact ⟨outer, List.mem_cons_of_mem _ inside, absorbs⟩

/-- A property that joins keep holds of every coalesced segment. -/
theorem coalesceFrom_forall {property : SourceMapSegment → Prop}
    (joins : ∀ previous segment whole, joined? previous segment = some whole →
      property previous → property segment → property whole)
    (first : property previous)
    (others : ∀ segment ∈ rest, property segment) :
    ∀ whole ∈ coalesceFrom previous rest, property whole := by
  induction rest generalizing previous with
  | nil =>
      intro whole member
      obtain rfl := List.mem_singleton.mp member
      exact first
  | cons segment rest ih =>
      have here := others segment List.mem_cons_self
      have later : ∀ other ∈ rest, property other :=
        fun other member => others other (List.mem_cons_of_mem _ member)
      unfold coalesceFrom
      cases join : joined? previous segment with
      | some whole => exact ih (joins previous segment whole join first here) later
      | none =>
          intro whole member
          rcases List.mem_cons.mp member with rfl | inside
          · exact first
          · exact ih here later whole inside

/-- Without text there is nothing to join. -/
theorem coalesceFrom_of_empty (empty : ∀ segment ∈ rest, segment.positive = false) :
    coalesceFrom previous rest = previous :: rest := by
  induction rest generalizing previous with
  | nil => rfl
  | cons segment rest ih =>
      have here := empty segment (List.mem_cons_self ..)
      have nothing : joined? previous segment = none := by
        unfold joined?
        rw [dif_neg]
        rintro ⟨_, some_text, _, _⟩
        rw [here] at some_text
        cases some_text
      unfold coalesceFrom
      rw [nothing]
      dsimp only
      rw [ih fun other member => empty other (List.mem_cons_of_mem _ member)]

variable {segments : List SourceMapSegment}

theorem coalesceSegments_of_empty
    (covering : Covering 0 0 segments) : coalesceSegments segments = segments := by
  cases segments with
  | nil => rfl
  | cons segment rest =>
      apply coalesceFrom_of_empty
      intro other member
      have bound := covering.bounds (List.mem_cons_of_mem _ member)
      rw [SourceMapSegment.positive, decide_eq_false_iff_not]
      omega

theorem coalesceSegments_forall {property : SourceMapSegment → Prop}
    (joins : ∀ previous segment whole, joined? previous segment = some whole →
      property previous → property segment → property whole)
    (all : ∀ segment ∈ segments, property segment) :
    ∀ whole ∈ coalesceSegments segments, property whole := by
  cases segments with
  | nil =>
      intro whole member
      cases member
  | cons segment rest =>
      exact coalesceFrom_forall joins (all segment List.mem_cons_self)
        fun other member => all other (List.mem_cons_of_mem _ member)

theorem coalesceSegments_covering {first last : Nat}
    (covering : Covering first last segments) :
    Covering first last (coalesceSegments segments) := by
  cases segments with
  | nil => exact covering
  | cons segment rest => exact coalesceFrom_covering covering

theorem coalesceSegments_absorbs
    (member : part ∈ segments) : ∃ whole ∈ coalesceSegments segments, Absorbs whole part := by
  cases segments with
  | nil => cases member
  | cons segment rest => exact coalesceFrom_absorbs member

/-- The coalesced segment at an offset absorbs the one that was there. -/
theorem segmentAt_coalesced {first last : Nat}
    (covering : Covering first last segments)
    (found : segmentAt segments offset = some part) :
    ∃ whole, segmentAt (coalesceSegments segments) offset = some whole ∧ Absorbs whole part := by
  have bounds := pieceAt_bounds found
  obtain ⟨whole, inside, absorbs⟩ := coalesceSegments_absorbs (pieceAt_mem found)
  refine ⟨whole, ?_, absorbs⟩
  apply (coalesceSegments_covering covering).pieceAt_eq inside
  have lower := absorbs.lower
  have upper := absorbs.upper
  exact covers_iff.mpr ⟨by omega, by omega⟩

end OnecRuntime.SourceMaps
