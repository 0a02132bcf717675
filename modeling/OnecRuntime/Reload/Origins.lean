import OnecRuntime.Reload.Section

/-!
# Origins of generated offsets

Every generated offset of a compact map lies in an inserted interval or is the
place of an original character.  Only the latter can be reported as exact, and
then it is the place of the parent offset from which the origin is counted.  A
compact map has a generic form only where every line ending has a projection.
-/

namespace OnecRuntime.Reload

open OnecRuntime.Library OnecRuntime.SourceMaps

variable {text : Text} {items : List ReloadInsertion} {map : CompactReloadSourceMap}

/-! ## Inserted or placed -/

/-- Every normalized offset between two places is that of a clean character. -/
theorem exists_kept {first last target : Nat} (lower : kept text first ≤ target)
    (upper : target < kept text last) :
    ∃ offset, first ≤ offset ∧ offset < last ∧ pairEnd text offset = false ∧
      kept text offset = target := by
  induction last with
  | zero => exact absurd upper (Nat.not_lt_zero _)
  | succ last ih =>
      rcases Nat.lt_or_ge target (kept text last) with before | reached
      · obtain ⟨offset, above, below, clean, same⟩ := ih before
        exact ⟨offset, above, Nat.lt_succ_of_lt below, clean, same⟩
      · have clean : pairEnd text last = false := by
          rw [← Bool.not_eq_true]
          intro ends
          rw [kept_pair ends] at upper
          omega
        have step := kept_succ clean
        refine ⟨last, ?_, Nat.lt_succ_self _, clean, by omega⟩
        by_contra beyond
        have moved : kept text (last + 1) ≤ kept text first :=
          kept_monotone (Nat.lt_of_not_le beyond)
        omega

variable {cursor offset : Nat}

theorem placedIntervals_cover {segments : List SourceMapSegment} {before : Nat}
    (sorted : items.Pairwise fun first second => first.sourceOffset ≤ second.sourceOffset)
    (ahead : ∀ item ∈ items, cursor ≤ item.sourceOffset)
    (inside : ∀ item ∈ items, item.sourceOffset ≤ text.length)
    (lower : kept text cursor + before ≤ offset)
    (upper : offset < kept text text.length + before + totalLength items) :
    (∃ interval ∈ placedIntervals segments text before items, interval.Holds offset) ∨
      ∃ origin, cursor ≤ origin ∧ origin < text.length ∧ pairEnd text origin = false ∧
        kept text origin + before + inserted items origin = offset := by
  induction items generalizing cursor before with
  | nil =>
      rw [totalLength_nil] at upper
      obtain ⟨origin, above, below, clean, same⟩ :=
        exists_kept (show kept text cursor ≤ offset - before by omega)
          (show offset - before < kept text text.length by omega)
      refine .inr ⟨origin, above, below, clean, ?_⟩
      rw [inserted_nil]
      omega
  | cons item rest ih =>
      obtain ⟨later, sortedRest⟩ := List.pairwise_cons.mp sorted
      rw [totalLength_cons] at upper
      rcases Nat.lt_or_ge offset (kept text item.sourceOffset + before) with before_item | reached
      · obtain ⟨origin, above, below, clean, same⟩ :=
          exists_kept (show kept text cursor ≤ offset - before by omega)
            (show offset - before < kept text item.sourceOffset by omega)
        have fits := inside item List.mem_cons_self
        have untouched : inserted (item :: rest) origin = 0 := by
          refine inserted_of_after fun other member => ?_
          rcases List.mem_cons.mp member with rfl | inRest
          · exact below
          · exact below.trans_le (later other inRest)
        exact .inr ⟨origin, above, by omega, clean, by omega⟩
      · rcases Nat.lt_or_ge offset (kept text item.sourceOffset + before + item.generatedLength)
          with held | beyond
        · exact .inl ⟨_, List.mem_cons_self, reached, held⟩
        · have lowerRest :
              kept text item.sourceOffset + (before + item.generatedLength) ≤ offset := by omega
          have upperRest : offset <
              kept text text.length + (before + item.generatedLength) + totalLength rest := by omega
          rcases ih sortedRest later (fun other member => inside other (List.mem_cons_of_mem _ member))
            lowerRest upperRest with
            ⟨interval, member, holds⟩ | ⟨origin, above, below, clean, same⟩
          · exact .inl ⟨interval, List.mem_cons_of_mem _ member, holds⟩
          · have passed := ahead item List.mem_cons_self
            refine .inr ⟨origin, by omega, below, clean, ?_⟩
            rw [inserted_cons, if_pos above]
            omega

theorem Placed.inserted_or_placed (placed : Placed text items map)
    (inside : offset < map.generated.characterLength) :
    (∃ interval ∈ map.basis.intervals, interval.Holds offset) ∨
      ∃ origin < text.length, pairEnd text origin = false ∧ place text items origin = offset := by
  have all : inserted items text.length = totalLength items :=
    inserted_of_before placed.ordered.inside
  rw [placed.total, place, all] at inside
  rw [placed.intervals]
  have within : offset < kept text text.length + 0 + totalLength items := inside
  rcases placedIntervals_cover placed.ordered.sorted (fun _ _ => Nat.zero_le _)
    placed.ordered.inside (Nat.zero_le _) within with held | ⟨origin, _, below, clean, same⟩
  · exact .inl held
  · exact .inr ⟨origin, below, clean, same⟩

/-! ## Exact reports -/

theorem mappedCompactInterval_not_exact (interval : CompactInsertionInterval) :
    (mappedCompactInterval interval).relation ≠ .exact := by
  unfold mappedCompactInterval
  split <;> exact nofun

variable {mapped : MappedOffset}

/-- The line feed of a line ending is derived or synthetic. -/
theorem Layable.mapLineEnding_not_exact (layable : Layable text items map) {ending : LineEnding}
    (member : ending ∈ lineEndingIndex 0 text)
    (report : map.mapLineEnding ending.start ending.width = .ok mapped) :
    mapped.relation ≠ .exact := by
  obtain ⟨segment, projected⟩ := layable.projects ending member
  rw [layable.mapLineEnding member projected] at report
  obtain rfl := Except.ok.inj report
  unfold projectedEnding endingSegment at projected
  dsimp only at projected
  split at projected
  · obtain rfl := Except.ok.inj projected
    exact nofun
  · split at projected
    · obtain rfl := Except.ok.inj projected
      exact nofun
    · cases projected

/-- The original of an exact report: its parent offset, and the segment that holds it. -/
structure ExactOrigin (text : Text) (items : List ReloadInsertion) (parent : SourceMap)
    (generated : Nat) (unit : SourceUnitRef) (span : SourceSpan) (original : Nat)
    (segment : SourceMapSegment) (first : Nat) (region : Option Region) : Prop where
  inside : original < text.length
  placed : place text items original = generated
  member : segment ∈ parent.segments
  provenance : segment.provenance = .exact (.unit unit) first region
  lower : segment.start ≤ original
  upper : original < segment.stop
  span : span = .ofWidth (first + (original - segment.start)) 1

theorem Layable.exact_origin (layable : Layable text items map)
    (inside : offset < map.generated.characterLength)
    (report : map.mapFlattenedOffset offset = .ok mapped) (exact : mapped.relation = .exact) :
    ∃ unit span original segment first region, mapped.unit = some unit ∧
      mapped.originSpan = some span ∧
      ExactOrigin text items map.basis.parentSourceMap offset unit span original segment first
        region := by
  rcases layable.inserted_or_placed inside with
    ⟨interval, member, lower, upper⟩ | ⟨original, fits, clean, rfl⟩
  · rw [layable.map_interval member lower (.inl upper)] at report
    obtain rfl := Except.ok.inj report
    exact absurd exact (mappedCompactInterval_not_exact interval)
  rw [layable.map_place fits clean] at report
  by_cases carriage : text[original]? = some '\r'
  · obtain ⟨ending, member, rfl⟩ : ∃ ending ∈ lineEndingIndex 0 text, ending.start = original :=
      ⟨⟨original, if text[original + 1]? = some '\n' then 2 else 1⟩,
        mem_lineEndingIndex_zero.mpr ⟨carriage, rfl⟩, rfl⟩
    rw [layable.mapOriginal_ending member] at report
    exact absurd exact (layable.mapLineEnding_not_exact member report)
  rw [layable.mapOriginal_plain carriage] at report
  obtain ⟨segment, found⟩ :=
    map.basis.parentSourceMap.segmentAt_isSome (layable.parentLength ▸ fits)
  have bounds := pieceAt_bounds found
  have member := pieceAt_mem found
  rw [map.basis.parentSourceMap.mapOffset_inside found] at report
  unfold mappedSegment at report
  split at report
  · obtain rfl := Except.ok.inj report
    cases exact
  · obtain rfl := Except.ok.inj report
    cases exact
  · next unit first region given =>
      obtain rfl := Except.ok.inj report
      have wide : ¬(false = true ∨ segment.start = segment.stop) := by
        rintro (impossible | same)
        · cases impossible
        · omega
      refine ⟨unit, _, original, segment, first, region, rfl, rfl, ?_⟩
      exact ⟨fits, rfl, member, given, bounds.1, bounds.2, by rw [if_neg wide]⟩
  · cases report

/-- Behind a final pair the end of the text is not exact. -/
theorem Layable.pair_end_not_exact (layable : Layable text items map)
    (ends : pairEnd text offset = true)
    (last : place text items offset = map.generated.characterLength)
    (report : map.mapFlattenedOffset map.generated.characterLength = .ok mapped) :
    mapped.relation ≠ .exact := by
  cases offset with
  | zero => simp at ends
  | succ carriage =>
      obtain ⟨here, feed⟩ := pairEnd_succ.mp ends
      have clean : pairEnd text carriage = false := by
        cases carriage with
        | zero => exact pairEnd_zero
        | succ before =>
            rw [← Bool.not_eq_true, pairEnd_succ, here]
            exact fun both => by cases both.2
      have fits : carriage < text.length := (List.getElem?_eq_some_iff.mp here).1
      have step := kept_succ clean
      -- an insertion at the line feed would split the pair
      have still : inserted items (carriage + 1) = inserted items carriage := by
        unfold inserted
        congr 2
        refine List.filter_congr fun item member => ?_
        have apart : item.sourceOffset ≠ carriage + 1 := by
          intro same
          have whole := layable.ordered.clean item member
          rw [same, ends] at whole
          cases whole
        rw [decide_eq_decide]
        omega
      have follows : map.generated.characterLength = place text items carriage + 1 := by
        rw [← last, place, place, still]
        omega
      rw [layable.map_end fits clean follows] at report
      obtain ⟨ending, member, rfl⟩ : ∃ ending ∈ lineEndingIndex 0 text, ending.start = carriage :=
        ⟨⟨carriage, if text[carriage + 1]? = some '\n' then 2 else 1⟩,
          mem_lineEndingIndex_zero.mpr ⟨here, rfl⟩, rfl⟩
      rw [layable.mapOriginal_ending member] at report
      exact layable.mapLineEnding_not_exact member report

/-! ## Projections of a materialized map -/

/-- What the generic loop needs of the projector, whether or not every ending projects. -/
structure Reachable (map : CompactReloadSourceMap) (text : Text) : Prop where
  lineEndings : map.basis.lineEndings = lineEndingIndex 0 text
  parentLength : map.basis.parentSourceMap.generated.characterLength = text.length
  sourceLength : map.basis.sourceLength = text.length

def Projects (map : CompactReloadSourceMap) (ending : LineEnding) : Prop :=
  ∃ segment, projectedEnding map.basis.parentSourceMap ending = .ok segment

variable {layout next : ReloadLayout} {artifact : SourceArtifactRef}

theorem stretch_passed (reachable : Reachable map text) {first last : Nat}
    (passed : Passed map.basis.parentSourceMap first layout.remaining)
    (inside : last ≤ text.length) (ordered : first ≤ last)
    (run : layout.stretch artifact first last = .ok next) :
    Passed map.basis.parentSourceMap last next.remaining := by
  unfold ReloadLayout.stretch at run
  split_ifs at run with ahead
  · have wide : first < first + (last - first) := by omega
    have fits : first + (last - first) ≤
        map.basis.parentSourceMap.generated.characterLength := by
      rw [reachable.parentLength]
      omega
    have starts : first ≤ (SourceSpan.ofWidth first (last - first)).start := Nat.le_refl _
    obtain ⟨later, found, passedLater⟩ :=
      projectorExact_ok passed starts wide fits layout.generatedCursor
    unfold ReloadLayout.exact at run
    rw [found] at run
    obtain rfl := pure_eq_ok.mp run
    exact passedLater.mono ordered
  · obtain rfl := pure_eq_ok.mp run
    exact passed.mono ordered

theorem ending_projects (reachable : Reachable map text) {ending : LineEnding}
    (passed : Passed map.basis.parentSourceMap cursor layout.remaining)
    (reached : cursor ≤ ending.start) (member : ending ∈ lineEndingIndex 0 text)
    (run : layout.ending artifact (.ofWidth ending.start ending.width) = .ok next) :
    Projects map ending ∧
      Passed map.basis.parentSourceMap (ending.start + ending.width) next.remaining := by
  obtain ⟨positive, fits⟩ := lineEnding_fits member
  have starts : cursor ≤ (SourceSpan.ofWidth ending.start ending.width).start := reached
  have wide : ending.start < ending.start + ending.width := Nat.lt_add_of_pos_right positive
  rw [← reachable.parentLength] at fits
  obtain ⟨later, found, passedLater⟩ := overlappingMonotonic_ok passed starts wide fits
  unfold ReloadLayout.ending projectorDerived at run
  dsimp only at run
  rw [found] at run
  obtain ⟨⟨remaining, piece⟩, projected, run⟩ := bind_eq_ok.mp run
  obtain rfl := pure_eq_ok.mp run
  obtain ⟨_, met, projected⟩ := bind_eq_ok.mp projected
  obtain rfl := Except.ok.inj met
  obtain ⟨segment, ended, paired⟩ := bind_eq_ok.mp projected
  obtain ⟨rfl, rfl⟩ := Prod.mk.inj (pure_eq_ok.mp paired)
  exact ⟨⟨_, (endingSegment_moved ended (.ofWidth 0 1)).1⟩,
    passedLater.mono (Nat.le_add_right _ _)⟩

theorem genericEndings_project (reachable : Reachable map text) {stop final : Nat}
    {endings : List LineEnding} (between : EndingsBetween text cursor stop endings)
    (inside : stop ≤ text.length) (whole : pairEnd text stop = false) (lower : cursor ≤ stop)
    (passed : Passed map.basis.parentSourceMap cursor layout.remaining)
    (run : genericEndings artifact endings cursor layout = .ok (final, next)) :
    (∀ ending ∈ endings, Projects map ending) ∧ final ≤ stop ∧
      Passed map.basis.parentSourceMap final next.remaining := by
  induction endings generalizing cursor layout with
  | nil =>
      have same := pure_eq_ok.mp run
      obtain ⟨rfl, rfl⟩ := Prod.mk.inj same
      exact ⟨fun _ impossible => (List.not_mem_nil impossible).elim, lower, passed⟩
  | cons ending rest ih =>
      obtain ⟨plain, stretched, run⟩ := bind_eq_ok.mp run
      obtain ⟨laid, ended, run⟩ := bind_eq_ok.mp run
      obtain ⟨member, reached, before_stop⟩ := (between.complete ending).mp List.mem_cons_self
      have passedPlain := stretch_passed reachable passed (before_stop.le.trans inside) reached
        stretched
      obtain ⟨projects, passedLaid⟩ :=
        ending_projects reachable passedPlain (Nat.le_refl _) member ended
      have fits := (normalizeReloadFragment_ending member rfl before_stop whole).2
      obtain ⟨later, bounded, passedNext⟩ := ih between.tail fits passedLaid run
      refine ⟨fun other inEndings => ?_, bounded, passedNext⟩
      rcases List.mem_cons.mp inEndings with rfl | inRest
      · exact projects
      · exact later other inRest

theorem genericUpTo_projects (reachable : Reachable map text) {stop : Nat}
    (inside : stop ≤ text.length) (whole : pairEnd text stop = false)
    (passed : Passed map.basis.parentSourceMap cursor layout.remaining) (lower : cursor ≤ stop)
    (run : genericUpTo map.basis stop cursor layout = .ok next) :
    (∀ ending ∈ lineEndingIndex 0 text, cursor ≤ ending.start → ending.start < stop →
        Projects map ending) ∧
      Passed map.basis.parentSourceMap stop next.remaining := by
  unfold genericUpTo genericOriginal at run
  split_ifs at run with ahead
  · rw [reachable.lineEndings] at run
    obtain ⟨⟨final, laid⟩, ended, run⟩ := bind_eq_ok.mp run
    have between : EndingsBetween text cursor stop _ := endingsBetween_bisected cursor stop
    obtain ⟨projects, bounded, passedLaid⟩ :=
      genericEndings_project reachable between inside whole lower passed ended
    exact ⟨fun ending member above below =>
        projects ending ((between.complete ending).mpr ⟨member, above, below⟩),
      stretch_passed reachable passedLaid inside bounded run⟩
  · obtain rfl := pure_eq_ok.mp run
    exact ⟨fun ending _ above below => by omega, passed.mono lower⟩

theorem genericInterval_remaining {interval : CompactInsertionInterval}
    (run : genericInterval artifact interval layout = .ok next) :
    next.remaining = layout.remaining := by
  unfold genericInterval at run
  dsimp only at run
  split at run
  · obtain ⟨_, impossible, _⟩ := bind_eq_ok.mp run
    cases impossible
  · split at run
    · obtain ⟨_, impossible, _⟩ := bind_eq_ok.mp run
      cases impossible
    · rw [← pure_eq_ok.mp run]
      rfl

theorem genericLoop_projects (reachable : Reachable map text) {segments : List SourceMapSegment}
    {before : Nat} (ordered : Ordered text items)
    (ahead : ∀ item ∈ items, cursor ≤ item.sourceOffset) (inside : cursor ≤ text.length)
    (passed : Passed map.basis.parentSourceMap cursor layout.remaining)
    (run : genericLoop map.basis (placedIntervals segments text before items) cursor layout =
      .ok next) :
    ∀ ending ∈ lineEndingIndex 0 text, cursor ≤ ending.start → Projects map ending := by
  induction items generalizing cursor before layout with
  | nil =>
      rw [placedIntervals, genericLoop, reachable.sourceLength] at run
      obtain ⟨projects, _⟩ := genericUpTo_projects reachable (Nat.le_refl _) pairEnd_length passed
        inside run
      intro ending member above
      obtain ⟨positive, fits⟩ := lineEnding_fits member
      exact projects ending member above (by omega)
  | cons item rest ih =>
      obtain ⟨plain, laid, run⟩ := bind_eq_ok.mp run
      obtain ⟨put, placed, run⟩ := bind_eq_ok.mp run
      have fits := ordered.inside item List.mem_cons_self
      obtain ⟨projects, passedPlain⟩ := genericUpTo_projects reachable fits
        (ordered.clean item List.mem_cons_self) passed (ahead item List.mem_cons_self) laid
      rw [← genericInterval_remaining placed] at passedPlain
      have later := ih ordered.tail (List.pairwise_cons.mp ordered.sorted).1 fits passedPlain run
      intro ending member above
      rcases Nat.lt_or_ge ending.start item.sourceOffset with early | late
      · exact projects ending member above early
      · exact later ending member late

/-- A map that has a generic form projects every line ending. -/
theorem Accepted.projects {sha256 : Text → String} {source : MappedSource}
    {insertions : List ReloadInsertion} {compact : CompactMappedWorkerSource}
    (accepted : Accepted sha256 source insertions text items compact) {generic : SourceMap}
    (materialized : compact.sourceMap.materializeGeneric = .ok generic) :
    ∀ ending ∈ lineEndingIndex 0 text, ∃ segment,
      projectedEnding source.sourceMap ending = .ok segment := by
  obtain ⟨layout, run, _⟩ := bind_eq_ok.mp materialized
  have reachable : Reachable compact.sourceMap text := by
    refine ⟨accepted.placed.lineEndings, ?_, accepted.placed.sourceLength⟩
    rw [accepted.parentSourceMap, source.mapped, accepted.sourceLength]
  rw [accepted.placed.intervals] at run
  intro ending member
  have projects := genericLoop_projects reachable accepted.placed.ordered
    (fun _ _ => Nat.zero_le _) (Nat.zero_le _) (Passed.start _) run ending member (Nat.zero_le _)
  unfold Projects at projects
  rwa [accepted.parentSourceMap] at projects

end OnecRuntime.Reload
