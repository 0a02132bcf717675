import OnecRuntime.Breakpoints.Found

/-!
# Compact and generic resolution

A compact map and its generic form report the same at every offset, so a
generated line is read back the same way.  A source line is resolved the same way
exactly where nothing that the scan counts in addition decides.
-/

namespace OnecRuntime.Breakpoints

open OnecRuntime.Library OnecRuntime.SourceMaps OnecRuntime.Reload

/-! ## Reading a generated line back -/

/-- Two views of one text whose maps report the same. -/
structure SameReports (view other : WorkerModuleDebugView) : Prop where
  text : other.text = view.text
  canonicalModule : other.canonicalModule = view.canonicalModule
  visibleContext : other.visibleContext = view.visibleContext
  mapOffset : ∀ offset ≤ view.text.length,
    other.sourceMap.mapOffset offset = view.sourceMap.mapOffset offset

variable {offset : Nat}

theorem generatedLineOffsets_ok {view : WorkerModuleDebugView} {line : Nat} {offsets : List Nat}
    (found : generatedLineOffsets view line = .ok offsets)
    (member : offset ∈ offsets) : offset ≤ view.text.length := by
  unfold generatedLineOffsets at found
  cases range : view.generatedLineIndex.lineRange line with
  | error problem =>
      rw [range] at found
      cases found
  | ok span =>
      rw [range] at found
      obtain rfl := Except.ok.inj found
      obtain ⟨positive, starts, stops⟩ := LineIndex.lineRange_ok.mp range
      have bounds := LineIndex.lineStop_bounds starts
      rw [Nat.sub_add_cancel positive, ← stops] at bounds
      have whole : view.generatedLineIndex.length = view.text.length := rfl
      rw [List.mem_range'_1] at member
      split_ifs at member
      · omega
      · unfold SourceSpan.width at member
        omega

theorem SameReports.mapGeneratedLine {view other : WorkerModuleDebugView}
    (same : SameReports view other) (line : Int) :
    mapGeneratedLine other line = mapGeneratedLine view line := by
  have offsetsSame : generatedLineOffsets other line.toNat =
      generatedLineOffsets view line.toNat := by
    unfold generatedLineOffsets WorkerModuleDebugView.generatedLineIndex
    rw [same.text]
  unfold Breakpoints.mapGeneratedLine
  rw [same.visibleContext, offsetsSame]
  split_ifs
  · rfl
  cases view.visibleContext with
  | none => rfl
  | some context =>
      cases found : generatedLineOffsets view line.toNat with
      | error problem => rfl
      | ok offsets =>
          have noted : offsets.foldlM (noteOffset other context) {} =
              offsets.foldlM (noteOffset view context) {} := by
            refine foldlM_same (fun offset member evidence => ?_) _
            unfold noteOffset
            rw [same.mapOffset offset (generatedLineOffsets_ok found member)]
          have located : locate other = locate view := by
            funext evidence
            unfold locate
            rw [same.canonicalModule]
          change (offsets.foldlM (noteOffset other context) {} >>= locate other) =
            (offsets.foldlM (noteOffset view context) {} >>= locate view)
          rw [noted, located]

variable {text : Text} {items : List ReloadInsertion} {map : CompactReloadSourceMap}
  {view : WorkerModuleDebugView} {unit : SourceUnitRef} {requested : SourceSpan}
  {context : VisibleSourceContext} {line : Nat}

/-- The offsets of a range of a unit have the line of the range. -/
theorem lineColumn_of_range (range : context.lineRange unit line = some requested)
    (lower : requested.start ≤ offset) (upper : offset < requested.stop) :
    ∃ column, context.lineColumn unit offset = some (line, column) := by
  obtain ⟨index, entry, ranged⟩ := Option.bind_eq_some_iff.mp range
  have inRange : index.lineRange line = .ok requested := by
    cases found : index.lineRange line with
    | error problem =>
        rw [found] at ranged
        cases ranged
    | ok span =>
        rw [found] at ranged
        exact congrArg _ (Option.some.inj ranged)
  obtain ⟨positive, starts, stops⟩ := LineIndex.lineRange_ok.mp inRange
  have bounds := LineIndex.lineStop_bounds starts
  rw [Nat.sub_add_cancel positive, ← stops] at bounds
  obtain ⟨column, found⟩ := index.offsetToLineColumn_ok
    (show offset ≤ index.length by omega)
  rw [LineIndex.lineOf_inside inRange lower upper] at found
  refine ⟨column, ?_⟩
  unfold VisibleSourceContext.lineColumn
  rw [entry, Option.bind_some, found]
  rfl

variable {evidence : LineEvidence}

theorem noteOffset_keeps {next : LineEvidence}
    (noted : noteOffset view context evidence offset = .ok next)
    (held : ∃ column, (unit, line, column) ∈ evidence.exact) :
    ∃ column, (unit, line, column) ∈ next.exact := by
  obtain ⟨column, member⟩ := held
  unfold noteOffset at noted
  split at noted
  · obtain rfl := Except.ok.inj noted
    exact ⟨column, member⟩
  · split at noted
    · split at noted
      · split at noted
        · cases noted
        · obtain rfl := Except.ok.inj noted
          exact ⟨column, List.mem_cons_of_mem _ member⟩
      · cases noted
    · obtain rfl := Except.ok.inj noted
      exact ⟨column, member⟩
    · obtain rfl := Except.ok.inj noted
      exact ⟨column, member⟩

/-- Evidence of one place proves that place or nothing. -/
theorem locate_held {column : Nat}
    (held : (unit, line, column) ∈ evidence.exact) :
    locate view evidence = .ok (some ⟨unit, view.canonicalModule, line⟩) ∨
      ∃ problem, locate view evidence = .error problem := by
  have member : (unit, line) ∈ (evidence.exact.map fun place => (place.1, place.2.1)).dedup :=
    List.mem_dedup.mpr (List.mem_map.mpr ⟨_, held, rfl⟩)
  unfold locate
  generalize (evidence.exact.map fun place => (place.1, place.2.1)).dedup = places at member ⊢
  match places, member with
  | [place], member =>
      obtain rfl := List.mem_singleton.mp member
      exact .inl rfl
  | _ :: _ :: _, _ => exact .inr ⟨_, rfl⟩

/-- A generated line that shows a source line is read back as that line, or not at all. -/
theorem CompactView.shown_back (compact : CompactView text items map view)
    (available : view.visibleContext = some context)
    (range : context.lineRange unit line = some requested) {generated : Nat}
    (shows : Shows view unit requested generated) :
    mapGeneratedLine view generated = .ok (some ⟨unit, view.canonicalModule, line⟩) ∨
      ∃ problem, mapGeneratedLine view generated = .error problem := by
  obtain ⟨offset, mapped, inside, ⟨rfl, report⟩, met⟩ := shows
  obtain ⟨relation, here, span, spanned, meeting⟩ := exactMeets_iff.mp met
  obtain ⟨lower, upper⟩ := meets_iff.mp meeting
  have flattened := (compact.mapOffset offset).symm.trans report
  obtain ⟨_, _, _, _, _, _, _, spanIs, found⟩ :=
    compact.layable.exact_origin (compact.length ▸ inside) flattened relation
  obtain rfl := Option.some.inj (spanned.symm.trans spanIs)
  have single : span.stop = span.start + 1 := by
    rw [found.span]
    rfl
  obtain ⟨column, positioned⟩ := lineColumn_of_range range
    (show requested.start ≤ span.start by omega) lower
  obtain ⟨generatedSpan, generatedRange, above, below⟩ :=
    LineIndex.lineRange_lineOf view.generatedLineIndex inside.le
  have within : offset < generatedSpan.stop := by
    rcases below with below | ⟨last, _⟩
    · exact below
    · exact absurd last (Nat.ne_of_lt inside)
  have positive := view.generatedLineIndex.lineOf_pos offset
  unfold mapGeneratedLine
  rw [if_neg (by omega), available, Int.toNat_natCast]
  have offsets : generatedLineOffsets view (view.generatedLineIndex.lineOf offset) =
      .ok (List.range' generatedSpan.start (generatedSpan.stop - generatedSpan.start)) := by
    unfold generatedLineOffsets
    rw [generatedRange]
    dsimp only
    rw [if_neg (by omega)]
    rfl
  dsimp only
  rw [offsets]
  change ((List.range' _ _).foldlM (noteOffset view context) {} >>= locate view) = _ ∨
    ∃ problem, ((List.range' _ _).foldlM (noteOffset view context) {} >>= locate view) = _
  cases run : (List.range' generatedSpan.start
      (generatedSpan.stop - generatedSpan.start)).foldlM (noteOffset view context) {} with
  | error problem => exact .inr ⟨problem, rfl⟩
  | ok evidence =>
      have held : ∃ column, (unit, line, column) ∈ evidence.exact := by
        have inRange : offset ∈ List.range' generatedSpan.start
            (generatedSpan.stop - generatedSpan.start) := by
          rw [List.mem_range'_1]
          omega
        refine foldlM_brings (fun evidence => ∃ column,
          (unit, line, column) ∈ evidence.exact) ?_ inRange ?_ run
        · intro other _ before after held noted
          exact noteOffset_keeps noted held
        · intro state next noted
          unfold noteOffset at noted
          rw [report] at noted
          simp only [relation, here, spanned, positioned] at noted
          obtain rfl := Except.ok.inj noted
          exact ⟨column, List.mem_cons_self⟩
      obtain ⟨column, held⟩ := held
      exact locate_held held

/-! ## Settling the lines -/

section Settling

variable {found : FoundLines} {generated other : Nat}

theorem settleLines_none (nothing : ∀ line, line ∉ found.exact) :
    settleLines view unit line found =
      .ok (.rejected (if found.synthetic = [] then .unmappedSourceLine else .syntheticTarget)) := by
  unfold settleLines
  rw [List.eq_nil_iff_forall_not_mem.mpr nothing]
  rfl

theorem settleLines_many (first : generated ∈ found.exact) (second : other ∈ found.exact)
    (apart : generated ≠ other) :
    settleLines view unit line found = .ok (.rejected .ambiguousLineMapping) := by
  have firstIn := List.mem_dedup.mpr first
  have secondIn := List.mem_dedup.mpr second
  unfold settleLines
  generalize found.exact.dedup = lines at firstIn secondIn ⊢
  match lines, firstIn, secondIn with
  | [only], firstIn, secondIn =>
      obtain rfl := List.mem_singleton.mp firstIn
      exact absurd (List.mem_singleton.mp secondIn).symm apart
  | _ :: _ :: _, _, _ => rfl

theorem dedup_of_single (member : generated ∈ found.exact)
    (only : ∀ line ∈ found.exact, line = generated) : found.exact.dedup = [generated] := by
  have inside := List.mem_dedup.mpr member
  have all : ∀ line ∈ found.exact.dedup, line = generated :=
    fun line inDedup => only line (List.mem_dedup.mp inDedup)
  have distinct := List.nodup_dedup found.exact
  generalize found.exact.dedup = lines at inside all distinct ⊢
  match lines, inside, all, distinct with
  | [only], inside, _, _ => rw [List.mem_singleton.mp inside]
  | first :: second :: rest, _, all, distinct =>
      have same := (all first List.mem_cons_self).trans
        (all second (List.mem_cons_of_mem _ List.mem_cons_self)).symm
      exact absurd (same ▸ List.mem_cons_self) (List.nodup_cons.mp distinct).1

theorem settleLines_marked (member : generated ∈ found.exact)
    (marked : generated ∈ found.synthetic) :
    settleLines view unit line found = .ok (.rejected .ambiguousLineMapping) := by
  by_cases only : ∀ line ∈ found.exact, line = generated
  · unfold settleLines
    rw [dedup_of_single member only]
    exact if_pos marked
  · obtain ⟨other, otherIn, apart⟩ : ∃ other ∈ found.exact, other ≠ generated := by
      push Not at only
      exact only
    exact settleLines_many otherIn member apart

theorem settleLines_single (member : generated ∈ found.exact)
    (only : ∀ line ∈ found.exact, line = generated) (clean : generated ∉ found.synthetic) :
    settleLines view unit line found = (do
      let roundtrip ← mapGeneratedLine view generated
      if roundtrip.any fun place => decide (place.sourceUnit = unit ∧ place.line = line) then
        pure (.mapped generated)
      else pure (.rejected .ambiguousLineMapping)) := by
  unfold settleLines
  rw [dedup_of_single member only]
  exact if_neg clean

/-- Where some line is found exactly, the reason of a rejection is ambiguity. -/
theorem settleLines_some (member : generated ∈ found.exact) {reason : WorkerBreakpointRejection}
    (rejected : settleLines view unit line found = .ok (.rejected reason)) :
    reason = .ambiguousLineMapping := by
  by_cases only : ∀ line ∈ found.exact, line = generated
  · by_cases marked : generated ∈ found.synthetic
    · rw [settleLines_marked member marked] at rejected
      cases rejected
      rfl
    · rw [settleLines_single member only marked] at rejected
      obtain ⟨roundtrip, _, rejected⟩ := bind_eq_ok.mp rejected
      split_ifs at rejected
      · cases rejected
      · cases rejected
        rfl
  · obtain ⟨other, otherIn, apart⟩ : ∃ other ∈ found.exact, other ≠ generated := by
      push Not at only
      exact only
    rw [settleLines_many otherIn member apart] at rejected
    cases rejected
    rfl

end Settling

/-! ## Agreement -/

/--
The additional lines of the scan decide nothing: the line is ambiguous anyway,
or one generated line shows it and neither borders nor marks speak against it,
or none shows or borders it and its marks are those of the insertions.
-/
def LinesAlike (view : WorkerModuleDebugView) (map : CompactReloadSourceMap)
    (unit : SourceUnitRef) (requested : SourceSpan) : Prop :=
  (∃ generated other, generated ≠ other ∧ Shows view unit requested generated ∧
      Shows view unit requested other) ∨
    (∃ generated, Shows view unit requested generated ∧
      Carries view unit requested map generated) ∨
    (∃ generated, Shows view unit requested generated ∧
      (∀ other, Borders view unit requested other → other = generated) ∧
      ¬Marks view unit requested generated) ∨
    ((∀ generated, ¬Shows view unit requested generated ∧ ¬Borders view unit requested generated) ∧
      ((∃ generated, Carries view unit requested map generated) ∨
        ∀ generated, ¬Marks view unit requested generated))

/-- The found lines of the two branches. -/
structure Branches (view : WorkerModuleDebugView) (map : CompactReloadSourceMap)
    (unit : SourceUnitRef) (requested : SourceSpan) (compact scanned : FoundLines) : Prop where
  shows : ∀ line, line ∈ compact.exact ↔ Shows view unit requested line
  carries : ∀ line, line ∈ compact.synthetic ↔ Carries view unit requested map line
  touches : ∀ line, line ∈ scanned.exact ↔
    Shows view unit requested line ∨ Borders view unit requested line
  marks : ∀ line, line ∈ scanned.synthetic ↔ Marks view unit requested line
  marked : ∀ line, Carries view unit requested map line → Marks view unit requested line

variable {generic : WorkerModuleDebugView}

theorem settleLines_same (same : SameReports view generic)
    (found : FoundLines) : settleLines generic unit line found = settleLines view unit line found := by
  unfold settleLines
  simp only [same.mapGeneratedLine]

variable {found : FoundLines}

/-- The one line found is read back as the source line, or reading it back fails. -/
theorem settleLines_read {generated : Nat} (member : generated ∈ found.exact)
    (only : ∀ line ∈ found.exact, line = generated) (clean : generated ∉ found.synthetic)
    (back : mapGeneratedLine view generated = .ok (some ⟨unit, view.canonicalModule, line⟩) ∨
      ∃ problem, mapGeneratedLine view generated = .error problem) :
    settleLines view unit line found = .ok (.mapped generated) ∨
      ∃ problem, settleLines view unit line found = .error problem := by
  rw [settleLines_single member only clean]
  rcases back with back | ⟨problem, back⟩
  · rw [back]
    refine .inl ?_
    change (if (decide (unit = unit ∧ line = line)) = true then _ else _) = _
    rw [if_pos (decide_eq_true ⟨rfl, rfl⟩)]
    rfl
  · rw [back]
    exact .inr ⟨problem, rfl⟩

/-- A rejection for want of an exact line says whether synthetic lines were found. -/
theorem rejection_eq_iff {first second : List Nat} :
    (Except.ok (WorkerLineMapping.rejected
        (if first = [] then .unmappedSourceLine else .syntheticTarget)) :
          SourceResult WorkerLineMapping) =
      .ok (.rejected (if second = [] then .unmappedSourceLine else .syntheticTarget)) ↔
    (first = [] ↔ second = []) := by
  by_cases none : first = []
  · by_cases other : second = [] <;> simp [none, other]
  · by_cases other : second = [] <;> simp [none, other]

theorem Branches.settle_iff {compact scanned : FoundLines}
    (branches : Branches view map unit requested compact scanned)
    (back : ∀ generated, Shows view unit requested generated →
      mapGeneratedLine view generated = .ok (some ⟨unit, view.canonicalModule, line⟩) ∨
        ∃ problem, mapGeneratedLine view generated = .error problem) :
    settleLines view unit line compact = settleLines view unit line scanned ↔
      LinesAlike view map unit requested := by
  have touched : ∀ line, Shows view unit requested line → line ∈ scanned.exact :=
    fun line shows => (branches.touches line).mpr (.inl shows)
  constructor
  · intro alike
    by_cases shown : ∃ generated, Shows view unit requested generated
    · obtain ⟨generated, shows⟩ := shown
      by_cases only : ∀ other, Shows view unit requested other → other = generated
      · by_cases carries : Carries view unit requested map generated
        · exact .inr (.inl ⟨generated, shows, carries⟩)
        · have inCompact := (branches.shows generated).mpr shows
          have read := settleLines_read inCompact
            (fun other member => only other ((branches.shows other).mp member))
            (fun member => carries ((branches.carries generated).mp member)) (back generated shows)
          have settled : settleLines view unit line scanned ≠
              .ok (.rejected .ambiguousLineMapping) := by
            rw [← alike]
            rcases read with read | ⟨problem, read⟩
            · rw [read]
              exact nofun
            · rw [read]
              exact nofun
          refine .inr (.inr (.inl ⟨generated, shows, fun other borders => ?_, fun marks => ?_⟩))
          · by_contra apart
            exact settled (settleLines_many ((branches.touches other).mpr (.inr borders))
              (touched generated shows) apart)
          · exact settled (settleLines_marked (touched generated shows)
              ((branches.marks generated).mpr marks))
      · push Not at only
        obtain ⟨other, otherShows, apart⟩ := only
        exact .inl ⟨other, generated, apart, otherShows, shows⟩
    · have none : ∀ line, line ∉ compact.exact :=
        fun line member => shown ⟨line, (branches.shows line).mp member⟩
      rw [settleLines_none none] at alike
      have unbordered : ∀ line, line ∉ scanned.exact := by
        intro generated member
        have reason := settleLines_some member alike.symm
        split_ifs at reason
      refine .inr (.inr (.inr ⟨fun generated => ?_, ?_⟩))
      · have outside := mt (branches.touches generated).mpr (unbordered generated)
        exact not_or.mp outside
      · rw [settleLines_none unbordered, rejection_eq_iff] at alike
        by_cases carried : compact.synthetic = []
        · right
          intro generated marks
          have member := (branches.marks generated).mpr marks
          rw [alike.mp carried] at member
          cases member
        · obtain ⟨generated, member⟩ := List.exists_mem_of_ne_nil _ carried
          exact .inl ⟨generated, (branches.carries generated).mp member⟩
  · rintro (⟨generated, other, apart, shows, otherShows⟩ | ⟨generated, shows, carries⟩ |
      ⟨generated, shows, borders, unmarked⟩ | ⟨none, marks⟩)
    · rw [settleLines_many ((branches.shows _).mpr shows) ((branches.shows _).mpr otherShows) apart,
        settleLines_many (touched _ shows) (touched _ otherShows) apart]
    · rw [settleLines_marked ((branches.shows _).mpr shows) ((branches.carries _).mpr carries),
        settleLines_marked (touched _ shows)
          ((branches.marks _).mpr (branches.marked _ carries))]
    · by_cases only : ∀ other, Shows view unit requested other → other = generated
      · have clean : generated ∉ compact.synthetic := fun member =>
          unmarked (branches.marked _ ((branches.carries _).mp member))
        rw [settleLines_single ((branches.shows _).mpr shows)
            (fun other member => only other ((branches.shows other).mp member)) clean,
          settleLines_single (touched _ shows) (fun other member => ?_)
            (fun member => unmarked ((branches.marks _).mp member))]
        exact ((branches.touches other).mp member).elim (only other) (borders other)
      · push Not at only
        obtain ⟨other, otherShows, apart⟩ := only
        rw [settleLines_many ((branches.shows _).mpr otherShows) ((branches.shows _).mpr shows)
            apart, settleLines_many (touched _ otherShows) (touched _ shows) apart]
    · rw [settleLines_none fun line member => (none line).1 ((branches.shows line).mp member),
        settleLines_none fun line member =>
          ((branches.touches line).mp member).elim (none line).1 (none line).2, rejection_eq_iff]
      rcases marks with ⟨generated, carries⟩ | unmarked
      · refine iff_of_false (List.ne_nil_of_mem ((branches.carries generated).mpr carries)) ?_
        exact List.ne_nil_of_mem
          ((branches.marks generated).mpr (branches.marked generated carries))
      · refine iff_of_true ?_ ?_
        · exact List.eq_nil_iff_forall_not_mem.mpr fun line member =>
            unmarked line (branches.marked line ((branches.carries line).mp member))
        · exact List.eq_nil_iff_forall_not_mem.mpr fun line member =>
            unmarked line ((branches.marks line).mp member)

/-! ## Views of a materialized source -/

theorem make_ok {canonicalModule : String} {text : Text} {sourceMap : WorkerSourceMap}
    {visibleContext : Option VisibleSourceContext}
    (made : WorkerModuleDebugView.make canonicalModule text sourceMap visibleContext = .ok view) :
    view.sourceMap = sourceMap ∧ view.text = text ∧ view.canonicalModule = canonicalModule ∧
      view.visibleContext = visibleContext := by
  unfold WorkerModuleDebugView.make at made
  split at made
  · cases made
  · obtain rfl := Except.ok.inj made
    exact ⟨rfl, rfl, rfl, rfl⟩

theorem SameReports.reported (same : SameReports view generic)
    (inside : offset ≤ view.text.length) {mapped : MappedOffset} :
    Reported generic line offset mapped ↔ Reported view line offset mapped := by
  unfold Reported WorkerModuleDebugView.generatedLineIndex
  rw [same.text, same.mapOffset offset inside]

theorem SameReports.touches (same : SameReports view generic) :
    Touches generic unit requested line ↔ Touches view unit requested line := by
  unfold Touches
  rw [same.text]
  refine exists_congr fun offset => exists_congr fun mapped => and_congr_right fun inside => ?_
  rw [same.reported inside]

theorem SameReports.marks (same : SameReports view generic) :
    Marks generic unit requested line ↔ Marks view unit requested line := by
  unfold Marks
  rw [same.text]
  refine exists_congr fun offset => exists_congr fun mapped => and_congr_right fun inside => ?_
  rw [same.reported inside]

/-- The error of a view that does not name the unit. -/
def foreignUnit : String := "Worker source identity does not match the debug view"

theorem noteOffset_not_foreign :
    noteOffset view context evidence offset ≠ .error foreignUnit := by
  unfold noteOffset
  split
  · exact nofun
  · split
    · split
      · split
        · exact fun raised => absurd (Except.error.inj raised) (by decide)
        · exact nofun
      · exact fun raised => absurd (Except.error.inj raised) (by decide)
    · exact nofun
    · exact nofun

theorem mapGeneratedLine_not_foreign {generated : Int} :
    mapGeneratedLine view generated ≠ .error foreignUnit := by
  unfold mapGeneratedLine
  split_ifs
  · exact fun raised => absurd (Except.error.inj raised) (by decide)
  split
  · exact fun raised => absurd (Except.error.inj raised) (by decide)
  · intro raised
    rcases bind_eq_error raised with ranged | ⟨offsets, _, raised⟩
    · unfold generatedLineOffsets at ranged
      split at ranged
      · exact absurd (Except.error.inj ranged) (by decide)
      · cases ranged
    rcases bind_eq_error raised with noted | ⟨evidence, _, located⟩
    · obtain ⟨offset, _, state, step⟩ := foldlM_eq_error noted
      exact noteOffset_not_foreign step
    · unfold locate at located
      split at located
      · exact absurd (Except.error.inj located) (by decide)
      · cases located
      · split_ifs at located
        exact absurd (Except.error.inj located) (by decide)

theorem settleLines_not_foreign :
    settleLines view unit line found ≠ .error foreignUnit := by
  unfold settleLines
  split
  · exact nofun
  · split_ifs
    · exact nofun
    · intro raised
      rcases bind_eq_error raised with back | ⟨roundtrip, _, settled⟩
      · exact mapGeneratedLine_not_foreign back
      · split_ifs at settled
        · cases settled
        · cases settled
  · exact nofun

/-- The result for a unit the view names and a range of it. -/
theorem resolveSourceLine_named {number : Int} (named : unit ∈ view.sourceUnits)
    (positive : 1 ≤ number) (available : view.visibleContext = some context)
    (range : context.lineRange unit number.toNat = some requested)
    (lines : foundLines view unit requested = .ok found) :
    resolveSourceLine view unit number = settleLines view unit number.toNat found := by
  unfold resolveSourceLine
  rw [if_neg (not_not_intro named), if_neg (by omega), available]
  dsimp only
  rw [range]
  dsimp only
  rw [lines]
  rfl

theorem resolveSourceLine_not_foreign {number : Int} (named : unit ∈ view.sourceUnits)
    (found : ∀ requested, ∃ lines, foundLines view unit requested = .ok lines) :
    resolveSourceLine view unit number ≠ .error foreignUnit := by
  unfold resolveSourceLine
  rw [if_neg (not_not_intro named)]
  split_ifs
  · exact nofun
  split
  · exact fun raised => absurd (Except.error.inj raised) (by decide)
  · split
    · exact nofun
    · next requested _ =>
        obtain ⟨lines, found⟩ := found requested
        rw [found]
        exact settleLines_not_foreign

/--
Both views name the unit or neither does, and on the range of the line the
additional lines of the scan decide nothing.
-/
def ResolvesAlike (view generic : WorkerModuleDebugView) (map : CompactReloadSourceMap)
    (unit : SourceUnitRef) (number : Int) : Prop :=
  (unit ∈ view.sourceUnits ↔ unit ∈ generic.sourceUnits) ∧
    ∀ context requested, unit ∈ view.sourceUnits → 1 ≤ number →
      view.visibleContext = some context →
      context.lineRange unit number.toNat = some requested →
      LinesAlike view map unit requested

theorem CompactView.resolves_iff (compact : CompactView text items map view)
    {made : SourceMap} (same : SameReports view generic)
    (scanned : generic.sourceMap = .generic made) (unit : SourceUnitRef) (number : Int) :
    resolveSourceLine view unit number = resolveSourceLine generic unit number ↔
      ResolvesAlike view generic map unit number := by
  have compactFound : ∀ requested, ∃ lines, foundLines view unit requested = .ok lines := by
    intro requested
    obtain ⟨lines, found, _⟩ := compact.compactLines_ok unit requested
    unfold foundLines
    rw [compact.sourceMap]
    exact ⟨lines, found⟩
  have scannedFound : ∀ requested, ∃ lines, foundLines generic unit requested = .ok lines := by
    intro requested
    obtain ⟨lines, found, _⟩ := scannedLines_ok generic unit requested
    unfold foundLines
    rw [scanned]
    exact ⟨lines, found⟩
  have foreign : ∀ {other : WorkerModuleDebugView}, unit ∉ other.sourceUnits →
      resolveSourceLine other unit number = .error foreignUnit := by
    intro other absent
    exact if_pos absent
  by_cases named : unit ∈ view.sourceUnits
  · by_cases genericNamed : unit ∈ generic.sourceUnits
    · by_cases ranged : ∃ context requested, 1 ≤ number ∧ view.visibleContext = some context ∧
          context.lineRange unit number.toNat = some requested
      · obtain ⟨context, requested, positive, available, range⟩ := ranged
        obtain ⟨compactLines, found, shown⟩ := compact.compactLines_ok unit requested
        obtain ⟨scannedLines, scan, touched⟩ := scannedLines_ok generic unit requested
        have branches : Branches view map unit requested compactLines scannedLines := by
          constructor
          · exact fun line => (shown line).1
          · exact fun line => (shown line).2
          · exact fun line =>
              ((touched line).1.trans same.touches).trans compact.touches_iff
          · exact fun line => (touched line).2.trans same.marks
          · exact fun line => compact.marks_of_carries
        have compactLookup : foundLines view unit requested = .ok compactLines := by
          unfold foundLines
          rw [compact.sourceMap]
          exact found
        have scanLookup : foundLines generic unit requested = .ok scannedLines := by
          unfold foundLines
          rw [scanned]
          exact scan
        rw [resolveSourceLine_named named positive available range compactLookup,
          resolveSourceLine_named genericNamed positive (same.visibleContext.trans available) range
            scanLookup, settleLines_same same,
          branches.settle_iff fun generated shows => compact.shown_back available range shows]
        constructor
        · intro alike
          refine ⟨iff_of_true named genericNamed, ?_⟩
          intro other span _ _ otherAvailable otherRange
          obtain rfl := Option.some.inj (available.symm.trans otherAvailable)
          obtain rfl := Option.some.inj (range.symm.trans otherRange)
          exact alike
        · exact fun alike => alike.2 context requested named positive available range
      · -- no range is asked for, and both views say why
        refine iff_of_true ?_ ⟨iff_of_true named genericNamed, ?_⟩
        · unfold resolveSourceLine
          rw [if_neg (not_not_intro named), if_neg (not_not_intro genericNamed),
            same.visibleContext]
          split_ifs
          · rfl
          cases available : view.visibleContext with
          | none => rfl
          | some context =>
              dsimp only
              cases range : context.lineRange unit number.toNat with
              | none => rfl
              | some requested =>
                  exact absurd ⟨context, requested, by omega, available, range⟩ ranged
        · intro context requested _ positive available range
          exact absurd ⟨context, requested, positive, available, range⟩ ranged
    · refine iff_of_false ?_ fun alike => genericNamed (alike.1.mp named)
      rw [foreign genericNamed]
      exact resolveSourceLine_not_foreign named compactFound
  · by_cases genericNamed : unit ∈ generic.sourceUnits
    · refine iff_of_false ?_ fun alike => named (alike.1.mpr genericNamed)
      rw [foreign named]
      exact (resolveSourceLine_not_foreign genericNamed scannedFound).symm
    · refine iff_of_true ((foreign named).trans (foreign genericNamed).symm)
        ⟨iff_of_false named genericNamed, ?_⟩
      exact fun _ _ inUnits => absurd inUnits named

/--
A view of a compact source and the view of its generic form read every generated
line back alike.  They resolve a source line alike exactly where nothing decides
that the scan counts in addition: the end of the text, what borders an empty line,
and marks that are not those of insertions whose anchors meet the line.
-/
theorem resolveSourceLine_alike {sha256 : Text → String} {casefold : String → String}
    {source : MappedSource} {insertions : List ReloadInsertion}
    {methodBoundaries : List ReloadMethodBoundary} {compact : CompactMappedWorkerSource}
    {made : SourceMap} {canonicalModule : String} {context : Option VisibleSourceContext}
    {view generic : WorkerModuleDebugView}
    (accepted : materializeWorkerReloadSource sha256 casefold source insertions methodBoundaries =
      .ok compact)
    (materialized : compact.sourceMap.materializeGeneric = .ok made)
    (viewed : WorkerModuleDebugView.make canonicalModule compact.text
      (.compact compact.sourceMap) context = .ok view)
    (replaced : view.replaceMap (.generic made) = .ok generic) (unit : SourceUnitRef)
    (number : Int) :
    (∀ generated, mapGeneratedLine view generated = mapGeneratedLine generic generated) ∧
      (resolveSourceLine view unit number = resolveSourceLine generic unit number ↔
        ResolvesAlike view generic compact.sourceMap unit number) := by
  obtain ⟨text, items, parts⟩ := materializeWorkerReloadSource_ok accepted
  have projects := parts.projects materialized
  obtain ⟨_, other, _, otherMade, _, agree⟩ := parts.agrees projects 0
  obtain rfl := Except.ok.inj (materialized.symm.trans otherMade)
  obtain ⟨mapped, texted, _, _⟩ := make_ok viewed
  obtain ⟨scanned, sameText, sameName, sameContext⟩ := make_ok replaced
  obtain ⟨length, _⟩ := reloadArtifact_ok parts.artifact
  have lookups : ∀ offset ≤ view.text.length, ∃ report,
      view.sourceMap.mapOffset offset = .ok report ∧
        generic.sourceMap.mapOffset offset = .ok report := by
    intro offset inside
    rw [texted] at inside
    obtain ⟨report, found, _, genericFound⟩ := agree offset inside
    rw [mapped, scanned]
    exact ⟨report, found, genericFound⟩
  have same : SameReports view generic := by
    refine ⟨sameText, sameName, sameContext, fun offset inside => ?_⟩
    obtain ⟨report, found, genericFound⟩ := lookups offset inside
    exact genericFound.trans found.symm
  have seen : CompactView text items compact.sourceMap view := by
    refine ⟨mapped, parts.layable projects, parts.flattened, ?_, fun offset inside => ?_⟩
    · rw [parts.generated, length, texted]
    · obtain ⟨report, found, _⟩ := lookups offset inside
      exact ⟨report, found⟩
  exact ⟨fun generated => (same.mapGeneratedLine generated).symm,
    seen.resolves_iff same scanned unit number⟩

/-- The digests of two modules, of one line with a line feed and of two lines. -/
def linesDigest (text : Text) : String :=
  if text = ['a', '\n'] then
    "87428fc522803d31065e7bce3cf03fe475096631e5e07bbd7a0fde60c4cf25c7"
  else "7e18f737311b2dc3b2f269dd78396b0351f14fb66efa879f768cb23181883c78"

/-- A module of its own name and text. -/
def linesUnit (text : Text) : SourceUnitRef := ⟨.module, "module", 1, linesDigest text⟩

/-- The first of two lines is resolved alike, so nothing decides that the scan adds. -/
theorem resolveSourceLine_alike_first :
    ∃ source compact made view generic,
      mappedVisibleSource linesDigest 0 ['a', '\n', 'b'] (linesUnit ['a', '\n', 'b']) =
          .ok source ∧
        materializeWorkerReloadSource linesDigest id source [] [] = .ok compact ∧
        compact.sourceMap.materializeGeneric = .ok made ∧
        WorkerModuleDebugView.make "worker" compact.text (.compact compact.sourceMap)
          (some (.ofSources linesDigest
            [(linesUnit ['a', '\n', 'b'], ['a', '\n', 'b'])])) = .ok view ∧
        view.replaceMap (.generic made) = .ok generic ∧
        resolveSourceLine generic (linesUnit ['a', '\n', 'b']) 1 = .ok (.mapped 1) ∧
        (∀ generated, mapGeneratedLine view generated = mapGeneratedLine generic generated) ∧
        ResolvesAlike view generic compact.sourceMap (linesUnit ['a', '\n', 'b']) 1 := by
  have run : ∃ source compact made view generic,
      mappedVisibleSource linesDigest 0 ['a', '\n', 'b'] (linesUnit ['a', '\n', 'b']) =
          .ok source ∧
        materializeWorkerReloadSource linesDigest id source [] [] = .ok compact ∧
        compact.sourceMap.materializeGeneric = .ok made ∧
        WorkerModuleDebugView.make "worker" compact.text (.compact compact.sourceMap)
          (some (.ofSources linesDigest
            [(linesUnit ['a', '\n', 'b'], ['a', '\n', 'b'])])) = .ok view ∧
        view.replaceMap (.generic made) = .ok generic ∧
        resolveSourceLine generic (linesUnit ['a', '\n', 'b']) 1 = .ok (.mapped 1) ∧
        resolveSourceLine view (linesUnit ['a', '\n', 'b']) 1 = .ok (.mapped 1) :=
    ⟨_, _, _, _, _, rfl, rfl, rfl, rfl, rfl, rfl, rfl⟩
  obtain ⟨source, compact, made, view, generic, visible, accepted, materialized, viewed, replaced,
    genericResolved, resolved⟩ := run
  obtain ⟨back, alike⟩ := resolveSourceLine_alike accepted materialized viewed replaced
    (linesUnit ['a', '\n', 'b']) 1
  exact ⟨source, compact, made, view, generic, visible, accepted, materialized, viewed, replaced,
    genericResolved, back, alike.mp (resolved.trans genericResolved.symm)⟩

/--
A last line that ends in a line feed: the compact branch resolves it, and the scan
also counts the empty line behind the line feed and rejects it as ambiguous.
-/
theorem last_line_resolved_apart :
    ∃ source compact made view generic,
      mappedVisibleSource linesDigest 0 ['a', '\n'] (linesUnit ['a', '\n']) = .ok source ∧
        materializeWorkerReloadSource linesDigest id source [] [] = .ok compact ∧
        compact.sourceMap.materializeGeneric = .ok made ∧
        WorkerModuleDebugView.make "worker" compact.text (.compact compact.sourceMap)
          (some (.ofSources linesDigest [(linesUnit ['a', '\n'], ['a', '\n'])])) = .ok view ∧
        view.replaceMap (.generic made) = .ok generic ∧
        linesUnit ['a', '\n'] ∈ generic.sourceUnits ∧
        resolveSourceLine view (linesUnit ['a', '\n']) 1 = .ok (.mapped 1) ∧
        resolveSourceLine generic (linesUnit ['a', '\n']) 1 =
          .ok (.rejected .ambiguousLineMapping) :=
  ⟨_, _, _, _, _, rfl, rfl, rfl, rfl, rfl, List.mem_cons_self, rfl, rfl⟩

end OnecRuntime.Breakpoints
