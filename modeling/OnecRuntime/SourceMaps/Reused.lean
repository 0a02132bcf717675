import OnecRuntime.SourceMaps.Provenance

/-!
# One-pass composition of reused fragments

Over a parent without empty segments, a local map without synthetic text and
with ascending origins is composed by one scan of the parent.  In every other
case the scan gives up.  The scan is an optimisation only: it returns what the
general composition returns.
-/

namespace OnecRuntime.SourceMaps

open OnecRuntime.Library

/-- Some neighbouring origins do not ascend. -/
def originsDescend : List SourceMapSegment → Bool
  | current :: following :: rest =>
      (match current.origin, following.origin with
        | some first, some second => decide (second.start < first.start)
        | _, _ => true) || originsDescend (following :: rest)
  | _ => false

/-- What a local segment needs for the scan. -/
def scannable (segment : SourceMapSegment) : Bool :=
  !decide (segment.relation = .synthetic) && segment.anchor.isNone &&
    segment.origin.any fun origin => decide (origin.start ≠ origin.stop)

/-- The segments that replace one local segment, from the parents the scan met. -/
def reusedPieces (segment : SourceMapSegment) (origin : SourceSpan)
    (overlapping : List SourceMapSegment) : Option (List SourceMapSegment) :=
  if segment.generated.width ≠ origin.width then
    match overlapping with
    | [parent] =>
        match parent.provenance with
        | .synthetic region => some [⟨segment.generated, .synthetic region, parent.anchor⟩]
        | .exact ref start _ =>
            some [⟨segment.generated, .derived ref (origin.rebase parent.start start)
              segment.syntheticRegion, parent.anchor⟩]
        | .derived ref span _ =>
            some [⟨segment.generated, .derived ref span segment.syntheticRegion, parent.anchor⟩]
    | _ => none
  else if overlapping = [] then none
  else
    some (overlapping.map fun parent =>
      let piece := parent.generated.intersect origin
      projectParentPiece segment parent (piece.rebase origin.start segment.start) piece none)

/-- The scan; `parents` holds the parent segments from the cursor on. -/
def composeReusedFrom :
    List SourceMapSegment → List SourceMapSegment → Option (List SourceMapSegment)
  | _, [] => some []
  | parents, segment :: rest =>
      segment.origin.bind fun origin =>
        let remaining := parents.dropWhile fun parent => decide (parent.stop ≤ origin.start)
        let overlapping :=
          (remaining.takeWhile fun parent => decide (parent.start < origin.stop)).filter
            (overlaps · origin)
        (reusedPieces segment origin overlapping).bind fun pieces =>
          (composeReusedFrom remaining rest).map (pieces ++ ·)

def composeReusedSourceMaps (localMap parent : SourceMap) : SourceResult SourceMap :=
  if parent.segments.any (fun segment => decide (segment.start = segment.stop)) ||
      !localMap.segments.all scannable || originsDescend localMap.segments then
    composeSourceMaps localMap parent
  else do
    validateFlattenedMap "flattened parent map" parent.segments
    if localMap.segments.any fun segment =>
        decide (segment.originRef ≠ some (.artifact parent.generated)) || segment.anchor.isSome then
      composeSourceMaps localMap parent
    else
      match composeReusedFrom (parent.segments.filter SourceMapSegment.positive)
          localMap.segments with
      | none => composeSourceMaps localMap parent
      | some composed =>
          let result ← SourceMap.make localMap.generated (coalesceSegments composed)
          validateFlattenedMap "composed flattened source map" result.segments
          pure result

/-! ## The scan meets the overlapping parents -/

variable {origin : SourceSpan}

theorem filter_takeWhile_start {parents : List SourceMapSegment} {first last : Nat}
    (covering : Covering first last parents)
    (text : ∀ parent ∈ parents, parent.start < parent.stop) :
    (parents.takeWhile fun parent => decide (parent.start < origin.stop)).filter
        (overlaps · origin) = parents.filter (overlaps · origin) := by
  induction parents generalizing first with
  | nil => rfl
  | cons parent rest ih =>
      obtain ⟨start, ordered, inner⟩ := covering
      have later := ih inner fun other member => text other (List.mem_cons_of_mem _ member)
      rw [List.takeWhile_cons]
      by_cases before : parent.start < origin.stop
      · rw [if_pos (by simpa using before), List.filter_cons, List.filter_cons, later]
      · rw [if_neg (by simpa using before)]
        symm
        refine List.filter_eq_nil_iff.mpr fun other member overlap => ?_
        have otherText := text other member
        have lower : parent.start ≤ other.start := by
          rcases List.mem_cons.mp member with rfl | inside
          · exact Nat.le_refl _
          · have bound := inner.bounds inside
            omega
        rcases overlaps_iff.mp overlap with ⟨empty, _⟩ | ⟨_, upper, _⟩
        · omega
        · omega

theorem not_overlaps_of_stop_le {parent : SourceMapSegment}
    (text : parent.start < parent.stop) (passed : parent.stop ≤ origin.start) :
    overlaps parent origin = false := by
  rw [← Bool.not_eq_true, overlaps_iff]
  omega

theorem filter_dropWhile_stop (parents : List SourceMapSegment)
    (text : ∀ parent ∈ parents, parent.start < parent.stop) :
    (parents.dropWhile fun parent => decide (parent.stop ≤ origin.start)).filter
        (overlaps · origin) = parents.filter (overlaps · origin) := by
  induction parents with
  | nil => rfl
  | cons parent rest ih =>
      have later := ih fun other member => text other (List.mem_cons_of_mem _ member)
      rw [List.dropWhile_cons]
      by_cases passed : parent.stop ≤ origin.start
      · have parentText := text parent List.mem_cons_self
        rw [if_pos (by simpa using passed), later, List.filter_cons,
          not_overlaps_of_stop_le parentText passed, if_neg Bool.false_ne_true]
      · rw [if_neg (by simpa using passed)]

/-! ## One local segment -/

/-- The anchor of a flattened segment is the visible place it names. -/
theorem flattened_anchor {segment : SourceMapSegment} (flattened : flattenedSegment segment = true) :
    unitAnchor segment.anchorUnit = segment.anchor := by
  unfold flattenedSegment SourceMapSegment.anchorRef at flattened
  unfold unitAnchor SourceMapSegment.anchorUnit
  rw [Bool.and_eq_true] at flattened
  cases anchorIs : segment.anchor with
  | none => rfl
  | some pair =>
      rw [anchorIs] at flattened
      obtain ⟨unit, unitIs⟩ := SourceRef.isUnit_iff.mp flattened.2
      obtain ⟨ref, span⟩ := pair
      change ref = .unit unit at unitIs
      rw [unitIs]
      rfl

section Segment

variable {parent : SourceMap} {segment : SourceMapSegment} {origin : SourceSpan}

/-- Only overlapping parents offer a visible place. -/
theorem filterMap_anchorCandidate (origin : SourceSpan) (parents : List SourceMapSegment) :
    parents.filterMap (anchorCandidate origin) =
      (parents.filter (overlaps · origin)).filterMap (anchorCandidate origin) := by
  rw [List.filterMap_filter]
  congr 1
  funext candidate
  unfold anchorCandidate
  cases overlap : overlaps candidate origin with
  | true => rfl
  | false => rw [if_pos (.inl Bool.false_ne_true), if_neg Bool.false_ne_true]

/-- A single overlapping parent holds the whole origin. -/
theorem origin_inside_single {only : SourceMapSegment}
    (single : parent.segments.filter (overlaps · origin) = [only])
    (some_text : origin.start < origin.stop)
    (inside : origin.stop ≤ parent.generated.characterLength) :
    only.start ≤ origin.start ∧ origin.stop ≤ only.stop := by
  have holds : ∀ place, origin.start ≤ place → place < origin.stop →
      only.start ≤ place ∧ place < only.stop := by
    intro place lower upper
    obtain ⟨found, at_place⟩ := parent.segmentAt_isSome
      (show place < parent.generated.characterLength by omega)
    have bounds := pieceAt_bounds at_place
    have overlap : overlaps found origin = true :=
      overlaps_iff.mpr (.inr ⟨by omega, by omega, by omega⟩)
    have member : found ∈ parent.segments.filter (overlaps · origin) :=
      List.mem_filter.mpr ⟨pieceAt_mem at_place, overlap⟩
    rw [single] at member
    obtain rfl := List.mem_singleton.mp member
    exact bounds
  have first := holds origin.start (Nat.le_refl _) some_text
  have last := holds (origin.stop - 1) (by omega) (by omega)
  omega

variable (flattened : ∀ other ∈ parent.segments, flattenedSegment other = true)
  (text : ∀ other ∈ parent.segments, other.start < other.stop)
  (some_text : origin.start < origin.stop)
  (inside : origin.stop ≤ parent.generated.characterLength)
include flattened text some_text inside

variable {pieces : List SourceMapSegment}

theorem composeResized_single {only : SourceMapSegment}
    (single : parent.segments.filter (overlaps · origin) = [only])
    (width : segment.generated.width ≠ origin.width)
    (reused : reusedPieces segment origin [only] = some pieces) :
    composeResized segment origin parent none = .ok pieces := by
  have onlyMember : only ∈ parent.segments.filter (overlaps · origin) := by
    rw [single]
    exact List.mem_singleton.mpr rfl
  obtain ⟨member, overlap⟩ := List.mem_filter.mp onlyMember
  have onlyText := text only member
  have onlyFlattened := flattened only member
  have anchorIs := flattened_anchor onlyFlattened
  have bounds := origin_inside_single single some_text inside
  have positives : parent.segments.filter (fun other => other.positive && overlaps other origin) =
      [only] := by
    rw [← single]
    refine List.filter_congr fun other otherMember => ?_
    have otherText := text other otherMember
    rw [SourceMapSegment.positive, decide_eq_true otherText, Bool.true_and]
  have candidates := filterMap_anchorCandidate origin parent.segments
  rw [single] at candidates
  have found : anchorForParentSpan parent origin = .ok (anchorCandidate origin only) := by
    unfold anchorForParentSpan
    rw [if_neg (by omega), candidates, List.filterMap_cons, List.filterMap_nil]
    cases anchorCandidate origin only with
    | none => rfl
    | some place => rfl
  unfold reusedPieces at reused
  rw [if_pos width] at reused
  unfold composeResized
  dsimp only
  rw [positives, if_neg (fun crosses => crosses.2 rfl), found]
  have meets : ¬(¬overlaps only origin = true ∨ only.start = only.stop) := by
    rintro (apart | empty)
    · exact apart overlap
    · omega
  unfold flattenedSegment SourceMapSegment.originRef at onlyFlattened
  unfold anchorCandidate
  rw [if_neg meets]
  cases provenance : only.provenance with
  | synthetic region =>
      simp only [provenance] at reused
      obtain rfl := Option.some.inj reused
      rw [← anchorIs]
      simp only [bind, Except.bind, List.find?_cons, SourceMapSegment.relation,
        SourceMapSegment.syntheticRegion, provenance, decide_true]
      cases only.anchorUnit with
      | none => rfl
      | some place => rfl
  | derived ref span region =>
      simp only [provenance] at reused onlyFlattened
      obtain rfl := Option.some.inj reused
      rw [Bool.and_eq_true] at onlyFlattened
      obtain ⟨unit, rfl⟩ := SourceRef.isUnit_iff.mp onlyFlattened.1
      rw [← anchorIs]
      simp [bind, Except.bind, SourceMapSegment.relation, provenance]
      rfl
  | exact ref start region =>
      simp only [provenance] at reused onlyFlattened
      obtain rfl := Option.some.inj reused
      rw [Bool.and_eq_true] at onlyFlattened
      obtain ⟨unit, rfl⟩ := SourceRef.isUnit_iff.mp onlyFlattened.1
      have cut : only.generated.intersect origin = origin := by
        ext
        · exact Nat.max_eq_right bounds.1
        · have stopIs : only.generated.stop = only.stop := rfl
          have startIs : only.generated.start = only.start := rfl
          simp only [SourceSpan.intersect_stop, stopIs, startIs]
          omega
      rw [← anchorIs, cut]
      simp [bind, Except.bind, SourceMapSegment.relation, provenance]
      rfl

omit flattened some_text inside in
/-- Pieces the scan cuts are the pieces of the general composition. -/
theorem composePieces_reused (width : segment.generated.width = origin.width)
    (reused : reusedPieces segment origin (parent.segments.filter (overlaps · origin)) =
      some pieces) :
    composePieces segment origin parent none = pieces ∧ pieces ≠ [] := by
  unfold reusedPieces at reused
  rw [if_neg (fun differ => differ width)] at reused
  split_ifs at reused with nothing
  obtain rfl := Option.some.inj reused
  constructor
  · refine List.map_congr_left fun other member => ?_
    have otherText := text other (List.mem_filter.mp member).1
    have cut : parentPiece other origin = other.generated.intersect origin := by
      unfold parentPiece
      rw [if_neg (by omega)]
    dsimp only
    rw [cut]
  · rwa [ne_eq, List.map_eq_nil_iff]

/-- What the scan returns for a segment is what `_compose_segment` returns. -/
theorem composeSegment_reused
    (ready : scannable segment = true) (originIs : segment.origin = some origin)
    (reused : reusedPieces segment origin (parent.segments.filter (overlaps · origin)) =
      some pieces) :
    composeSegment segment parent = .ok pieces := by
  unfold scannable at ready
  simp only [Bool.and_eq_true, Option.isNone_iff_eq_none] at ready
  obtain ⟨⟨_, unanchored⟩, _⟩ := ready
  unfold composeSegment composeAnchor
  rw [unanchored]
  simp only [pure, Except.pure, bind, Except.bind]
  unfold SourceMapSegment.origin at originIs
  cases provenance : segment.provenance with
  | synthetic region => rw [provenance] at originIs; cases originIs
  | exact ref start region =>
      simp only [provenance] at originIs ⊢
      obtain rfl := Option.some.inj originIs
      have width : segment.generated.width =
          (SourceSpan.ofWidth start segment.generated.width).width := by
        rw [SourceSpan.width_ofWidth]
      obtain ⟨same, some_pieces⟩ :=
        composePieces_reused text width reused
      rw [same, if_neg some_pieces]
  | derived ref span region =>
      simp only [provenance] at originIs ⊢
      obtain rfl := Option.some.inj originIs
      by_cases width : segment.generated.width = span.width
      · obtain ⟨same, some_pieces⟩ :=
          composePieces_reused text width reused
        rw [if_neg (fun differ => differ width), same, if_neg some_pieces]
      · rw [if_pos width]
        have parts := reused
        unfold reusedPieces at parts
        rw [if_pos width] at parts
        split at parts
        · next only single =>
            rw [single] at reused
            exact composeResized_single flattened text some_text inside single width reused
        · cases parts

end Segment

/-! ## The whole scan -/

theorem origins_ascend {segment : SourceMapSegment} {rest : List SourceMapSegment}
    (ascending : originsDescend (segment :: rest) = false)
    (originIs : segment.origin = some origin) :
    originsDescend rest = false ∧ ∀ later ∈ rest, ∀ other, later.origin = some other →
      origin.start ≤ other.start := by
  induction rest generalizing segment origin with
  | nil =>
      refine ⟨rfl, ?_⟩
      intro later member
      cases member
  | cons next rest ih =>
      unfold originsDescend at ascending
      rw [Bool.or_eq_false_iff] at ascending
      refine ⟨ascending.2, ?_⟩
      intro later member other otherIs
      have step := ascending.1
      rw [originIs] at step
      cases nextIs : next.origin with
      | none =>
          rw [nextIs] at step
          cases step
      | some nextOrigin =>
          rw [nextIs] at step
          have le := of_decide_eq_false step
          rcases List.mem_cons.mp member with rfl | inside
          · rw [nextIs] at otherIs
            obtain rfl := Option.some.inj otherIs
            omega
          · have beyond := (ih ascending.2 nextIs).2 later inside other otherIs
            omega

/-- The parents behind the cursor stop before every origin that is still to come. -/
theorem composeReusedFrom_composes {parent : SourceMap}
    (flattened : ∀ other ∈ parent.segments, flattenedSegment other = true)
    (text : ∀ other ∈ parent.segments, other.start < other.stop)
    {segments composed passed parents : List SourceMapSegment}
    (split : parent.segments = passed ++ parents)
    (behind : ∀ segment ∈ segments, ∀ origin, segment.origin = some origin →
      ∀ other ∈ passed, other.stop ≤ origin.start)
    (ready : ∀ segment ∈ segments, scannable segment = true)
    (ascending : originsDescend segments = false)
    (inside : ∀ segment ∈ segments, OriginsInside parent segment)
    (scanned : composeReusedFrom parents segments = some composed) :
    composeSegments parent segments = .ok composed := by
  induction segments generalizing composed passed parents with
  | nil =>
      obtain rfl := Option.some.inj scanned
      rfl
  | cons segment rest ih =>
      obtain ⟨origin, originIs, scanned⟩ := Option.bind_eq_some_iff.mp scanned
      obtain ⟨pieces, reused, scanned⟩ := Option.bind_eq_some_iff.mp scanned
      obtain ⟨others, later, rfl⟩ := Option.map_eq_some_iff.mp scanned
      have segmentReady := ready segment List.mem_cons_self
      have originText : origin.start < origin.stop := by
        unfold scannable at segmentReady
        rw [Bool.and_eq_true, originIs] at segmentReady
        have differ := of_decide_eq_true segmentReady.2
        have ordered := origin.ordered
        omega
      obtain ⟨restAscending, beyond⟩ := origins_ascend ascending originIs
      generalize remainingIs : (parents.dropWhile fun other => decide (other.stop ≤ origin.start)) =
        remaining at reused later
      have splitParents : parents =
          (parents.takeWhile fun other => decide (other.stop ≤ origin.start)) ++ remaining := by
        rw [← remainingIs, List.takeWhile_append_dropWhile]
      have parentsText : ∀ other ∈ parents, other.start < other.stop := fun other member =>
        text other (split ▸ List.mem_append_right _ member)
      have remainingText : ∀ other ∈ remaining, other.start < other.stop := fun other member =>
        parentsText other (splitParents ▸ List.mem_append_right _ member)
      have covering := parent.covering
      rw [split, splitParents, ← List.append_assoc] at covering
      obtain ⟨middle, _, remainingCovering⟩ := Tiles.append_iff.mp covering
      have passedApart : passed.filter (overlaps · origin) = [] := by
        refine List.filter_eq_nil_iff.mpr fun other member => ?_
        rw [not_overlaps_of_stop_le (text other (split ▸ List.mem_append_left _ member))
          (behind segment List.mem_cons_self origin originIs other member)]
        exact Bool.false_ne_true
      have met : parent.segments.filter (overlaps · origin) =
          (remaining.takeWhile fun other => decide (other.start < origin.stop)).filter
            (overlaps · origin) := by
        rw [filter_takeWhile_start remainingCovering remainingText, split, List.filter_append,
          passedApart, List.nil_append, ← filter_dropWhile_stop parents parentsText, remainingIs]
      rw [← met] at reused
      have here := composeSegment_reused flattened text originText
        (inside segment List.mem_cons_self origin originIs) segmentReady originIs reused
      have tail := ih
        (show parent.segments = (passed ++ parents.takeWhile fun other =>
          decide (other.stop ≤ origin.start)) ++ remaining by
            rw [List.append_assoc, ← splitParents, split])
        (fun laterSegment member laterOrigin laterIs other passedOther => ?_)
        (fun other member => ready other (List.mem_cons_of_mem _ member)) restAscending
        (fun other member => inside other (List.mem_cons_of_mem _ member)) later
      · unfold composeSegments
        rw [here, tail]
        rfl
      · have ahead := beyond laterSegment member laterOrigin laterIs
        rcases List.mem_append.mp passedOther with before | now
        · have old := behind segment List.mem_cons_self origin originIs other before
          omega
        · have stopped := of_decide_eq_true (List.all_eq_true.mp List.all_takeWhile other now)
          omega

theorem checkLocalSegments_reused {parent : SourceArtifactRef}
    {segments : List SourceMapSegment}
    (refs : ∀ segment ∈ segments, segment.originRef = some (.artifact parent) ∧
      segment.anchor = none) : checkLocalSegments parent segments = .ok () := by
  induction segments with
  | nil => rfl
  | cons segment rest ih =>
      obtain ⟨origin, anchor⟩ := refs segment List.mem_cons_self
      have later := ih fun other member => refs other (List.mem_cons_of_mem _ member)
      unfold checkLocalSegments SourceMapSegment.anchorRef
      rw [origin, anchor, later]
      simp [refersElsewhere, SourceRef.isUnit]

/-- The one-pass composition is the general one. -/
theorem composeReusedSourceMaps_eq (localMap parent : SourceMap) :
    composeReusedSourceMaps localMap parent = composeSourceMaps localMap parent := by
  unfold composeReusedSourceMaps
  by_cases general : (parent.segments.any (fun segment => decide (segment.start = segment.stop)) ||
      !localMap.segments.all scannable || originsDescend localMap.segments) = true
  · rw [if_pos general]
  rw [if_neg general]
  simp only [Bool.or_eq_true, not_or, Bool.not_eq_true, Bool.not_eq_eq_eq_not] at general
  obtain ⟨⟨noneEmpty, ready⟩, ascending⟩ := general
  cases validated : validateFlattenedMap "flattened parent map" parent.segments with
  | error message =>
      unfold composeSourceMaps
      rw [validated]
      rfl
  | ok done =>
      by_cases elsewhere : (localMap.segments.any fun segment =>
          decide (segment.originRef ≠ some (.artifact parent.generated)) ||
            segment.anchor.isSome) = true
      · simp only [bind, Except.bind]
        rw [if_pos elsewhere]
      simp only [bind, Except.bind]
      rw [if_neg elsewhere]
      cases scanned : composeReusedFrom (parent.segments.filter SourceMapSegment.positive)
          localMap.segments with
      | none => rfl
      | some composed =>
          have text : ∀ other ∈ parent.segments, other.start < other.stop := by
            intro other member
            have differ := List.any_eq_false.mp noneEmpty other member
            have ordered := other.ordered
            rw [decide_eq_true_iff] at differ
            omega
          have refs : ∀ segment ∈ localMap.segments,
              segment.originRef = some (.artifact parent.generated) ∧ segment.anchor = none := by
            intro segment member
            have here : ¬ _ := fun found =>
              elsewhere (List.any_eq_true.mpr ⟨segment, member, found⟩)
            simpa [Bool.or_eq_true, not_or] using here
          have positives : parent.segments.filter SourceMapSegment.positive = parent.segments :=
            List.filter_eq_self.mpr fun other member => decide_eq_true (text other member)
          have checked := checkLocalSegments_reused refs
          rw [positives] at scanned
          have composes := composeReusedFrom_composes (validateFlattenedMap_ok validated) text
            (List.nil_append _).symm (fun _ _ _ _ _ member => by cases member)
            (List.all_eq_true.mp (by simpa using ready)) ascending
            (originsInside_of_refs fun segment member ref refIs => ?_) scanned
          · unfold composeSourceMaps
            rw [validated, checked, composes]
            rfl
          · rw [(refs segment member).1] at refIs
            exact (Option.some.inj refIs).symm

/-- What the one pass returns or raises, the general composition returns or raises. -/
theorem composeReusedSourceMaps_refines (localMap parent : SourceMap) :
    (∀ result, composeReusedSourceMaps localMap parent = .ok result ↔
      composeSourceMaps localMap parent = .ok result) ∧
    (∀ message, composeReusedSourceMaps localMap parent = .error message ↔
      composeSourceMaps localMap parent = .error message) := by
  have same := composeReusedSourceMaps_eq localMap parent
  constructor
  · intro result
    rw [same]
  · intro message
    rw [same]

end OnecRuntime.SourceMaps
