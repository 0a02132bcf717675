import OnecRuntime.Capture.Resolver

/-!
# Where the resolver is right

The resolver takes the only line that it sights for a request, if it can bind it. It is right unless
the shapes of lines lead it away from the line that the request means, or it cannot bind that line.
-/

namespace OnecRuntime.Capture

open OnecRuntime.Library
open OnecRuntime.Breakpoints (LineIndex)
open OnecRuntime.SourceMaps (Text)
open OnecRuntime.Diagnostics (strip)

/-! ## Fragment lines -/

theorem mem_fragmentLinesFrom {fragment : Text} {first last number line : Nat} {lines : List Text} :
    line ∈ fragmentLinesFrom fragment first last number lines ↔ first ≤ line ∧ line ≤ last ∧
      number ≤ line ∧ ∃ content, lines[line - number]? = some content ∧ strip fragment <:+: content := by
  induction lines generalizing number with
  | nil =>
    refine iff_of_false (fun member => by cases member) ?_
    rintro ⟨-, -, -, content, missing, -⟩
    cases missing
  | cons content rest follows =>
    have later : line ∈ fragmentLinesFrom fragment first last (number + 1) rest ↔
        first ≤ line ∧ line ≤ last ∧ number < line ∧ ∃ other, (content :: rest)[line - number]? =
          some other ∧ strip fragment <:+: other := by
      rw [follows]
      refine and_congr_right fun _ => and_congr_right fun _ => and_congr_right fun behind => ?_
      have place : line - number = line - (number + 1) + 1 := by omega
      rw [place, List.getElem?_cons_succ]
    rw [fragmentLinesFrom]
    by_cases here : first ≤ number ∧ number ≤ last ∧ strip fragment <:+: content
    · rw [if_pos here, List.mem_cons, later]
      constructor
      · rintro (rfl | ⟨lower, upper, behind, held⟩)
        · exact ⟨here.1, here.2.1, Nat.le_refl _, content, by rw [Nat.sub_self]; rfl, here.2.2⟩
        · exact ⟨lower, upper, Nat.le_of_lt behind, held⟩
      · rintro ⟨lower, upper, behind, held⟩
        rcases Nat.eq_or_lt_of_le behind with same | behind
        · exact .inl same.symm
        · exact .inr ⟨lower, upper, behind, held⟩
    · rw [if_neg here, later]
      constructor
      · rintro ⟨lower, upper, behind, held⟩
        exact ⟨lower, upper, Nat.le_of_lt behind, held⟩
      · rintro ⟨lower, upper, behind, other, found, holds⟩
        rcases Nat.eq_or_lt_of_le behind with rfl | behind
        · rw [Nat.sub_self] at found
          obtain rfl := Option.some.inj found
          exact absurd ⟨lower, upper, holds⟩ here
        · exact ⟨lower, upper, behind, other, found, holds⟩

theorem mem_fragmentLines {text fragment : Text} {first last line : Nat} :
    line ∈ fragmentLines text fragment first last ↔ first ≤ line ∧ line ≤ last ∧ 0 < line ∧
      ∃ content, (splitLines text)[line - 1]? = some content ∧ strip fragment <:+: content :=
  mem_fragmentLinesFrom

/-! ## What the resolver sights -/

variable {functions : SourceFunctions}

/-- The lines of a region that a request may name. -/
def candidates (text : Text) (request : CapturePointRequest functions) (region : Region) : List Nat :=
  match request.sourceFragment with
  | some fragment => fragmentLines text fragment region.first region.last
  | none => request.line.toList.filter fun line => region.first ≤ line ∧ line ≤ region.last

theorem candidates_bounds {text : Text} {request : CapturePointRequest functions} {region : Region}
    {line : Nat} (member : line ∈ candidates text request region) :
    region.first ≤ line ∧ line ≤ region.last := by
  unfold candidates at member
  split at member
  · obtain ⟨lower, upper, -⟩ := mem_fragmentLines.1 member
    exact ⟨lower, upper⟩
  · exact of_decide_eq_true (List.mem_filter.1 member).2

/-- The lines that the shapes of lines find for a request. -/
def sightings (resolver : Resolver) (request : CapturePointRequest functions) :
    Except Refusal (List (ModuleSource × Nat × Text)) :=
  if request.module ≠ [] then do
    let source ← resolver.loadModule functions request.module
    let regions ← procedureRegions functions source.text
    match Resolver.matching request regions with
    | [region] =>
        pure ((candidates source.text request region).map fun line => (source, line, request.procedure))
    | _ => .error (.value "capture point procedure was not found exactly once")
  else
    match resolver.tree.commonModules with
    | none => .error (.protocol "common-module source root is missing")
    | some entries => resolver.matchesIn functions (request.sourceFragment.getD []) entries

/-- The resolver can bind a line that it has sighted. -/
structure Bindable (resolver : Resolver) (request : CapturePointRequest functions) (place : Place) :
    Prop where
  uncommented : request.module ≠ [] → commented (excerpt place.source.text place.line) = false
  project : identifier functions resolver.project = true
  procedure : identifier functions place.procedure = true
  positive : 0 < place.line
  inked : excerpt place.source.text place.line ≠ []
  short : (excerpt place.source.text place.line).length ≤ maxSourceExcerpt

/-- The binding of a line. -/
def bindingOf (resolver : Resolver) (request : CapturePointRequest functions) (place : Place) :
    CaptureBinding :=
  ⟨⟨request.name, resolver.project, place.source.name, place.procedure, place.line, 1,
      place.source.digest, place.line, excerpt place.source.text place.line⟩,
    ⟨if resolver.extensionName ≠ [] then "ExtensionModule" else "ConfigModule",
      place.source.objectId, place.line, resolver.extensionName⟩⟩

section Resolution

variable {resolver : Resolver} {request : CapturePointRequest functions}

/-- A request without a fragment names a line. -/
theorem line_of_no_fragment (request : CapturePointRequest functions)
    (none_given : request.sourceFragment = none) : ∃ line, request.line = some line := by
  by_cases anywhere : request.project = [] ∧ request.module = [] ∧ request.procedure = [] ∧
      request.line = none
  · exact absurd none_given (request.pointed anywhere)
  · obtain ⟨-, -, -, line, given, -⟩ := request.located anywhere
    exact ⟨line, given⟩

variable {line : Nat}

theorem chosenLine_candidates {text : Text} {region : Region} :
    candidates text request region = [line] ↔ Resolver.chosenLine text request region = .ok line ∧
      region.first ≤ line ∧ line ≤ region.last := by
  unfold Resolver.chosenLine
  cases given : request.sourceFragment with
  | some fragment =>
    have bounds := @candidates_bounds functions text request region
    unfold candidates at bounds ⊢
    rw [given] at bounds ⊢
    dsimp only at bounds ⊢
    constructor
    · intro only
      rw [only]
      exact ⟨rfl, bounds (only ▸ List.mem_singleton_self line)⟩
    · rintro ⟨chosen, -⟩
      split at chosen
      · next other only =>
        obtain rfl := Except.ok.inj chosen
        exact only
      · cases chosen
  | none =>
    obtain ⟨number, asked⟩ := line_of_no_fragment request given
    unfold candidates
    rw [given, asked]
    dsimp only [Option.toList_some, Option.getD_some]
    by_cases inside : region.first ≤ number ∧ number ≤ region.last
    · rw [List.filter_cons, if_pos (by exact decide_eq_true inside), List.filter_nil]
      constructor
      · intro only
        obtain rfl := (List.cons.inj only).1
        exact ⟨rfl, inside⟩
      · rintro ⟨chosen, -⟩
        rw [Except.ok.inj chosen]
    · rw [List.filter_cons, if_neg (by simpa using inside), List.filter_nil]
      refine iff_of_false (fun same => by cases same) ?_
      rintro ⟨chosen, bounds⟩
      rw [← Except.ok.inj chosen] at bounds
      exact inside bounds

variable {source : ModuleSource} {procedure : Text}

theorem resolveInModule_ok :
    Resolver.resolveInModule source request = .ok (line, procedure) ↔
      ∃ regions region, procedureRegions functions source.text = .ok regions ∧
        Resolver.matching request regions = [region] ∧
        candidates source.text request region = [line] ∧ procedure = request.procedure ∧
        excerpt source.text line ≠ [] ∧ commented (excerpt source.text line) = false := by
  unfold Resolver.resolveInModule
  constructor
  · intro resolved
    obtain ⟨regions, found, resolved⟩ := bind_eq_ok.mp resolved
    split at resolved
    · next region single =>
      obtain ⟨number, chosen, resolved⟩ := bind_eq_ok.mp resolved
      obtain ⟨_, bounds, resolved⟩ := bind_eq_ok.mp resolved
      obtain ⟨_, inked, resolved⟩ := bind_eq_ok.mp resolved
      obtain ⟨rfl, rfl⟩ := Prod.mk.inj (Except.ok.inj resolved)
      exact ⟨regions, region, found, single,
        chosenLine_candidates.2 ⟨chosen, require_eq_ok.mp bounds⟩, rfl, require_eq_ok.mp inked⟩
    · cases resolved
  · rintro ⟨regions, region, found, single, only, rfl, inked⟩
    obtain ⟨chosen, bounds⟩ := chosenLine_candidates.1 only
    refine bind_eq_ok.mpr ⟨regions, found, ?_⟩
    rw [single]
    refine bind_eq_ok.mpr ⟨line, chosen, ?_⟩
    refine bind_eq_ok.mpr ⟨(), require_eq_ok.mpr bounds, ?_⟩
    exact bind_eq_ok.mpr ⟨(), require_eq_ok.mpr inked, rfl⟩

/-- The line of a located request. -/
theorem located_ok (located : request.module ≠ [])
    :
    (resolver.loadModule functions request.module = .ok source ∧
      Resolver.resolveInModule source request = .ok (line, procedure)) ↔
      sightings resolver request = .ok [(source, line, procedure)] ∧
        excerpt source.text line ≠ [] ∧ commented (excerpt source.text line) = false := by
  unfold sightings
  rw [if_pos located, resolveInModule_ok]
  constructor
  · rintro ⟨loaded, regions, region, found, single, only, rfl, inked⟩
    refine ⟨bind_eq_ok.mpr ⟨source, loaded, bind_eq_ok.mpr ⟨regions, found, ?_⟩⟩, inked⟩
    rw [single]
    dsimp only
    rw [only]
    rfl
  · rintro ⟨sighted, inked⟩
    obtain ⟨other, loaded, sighted⟩ := bind_eq_ok.mp sighted
    obtain ⟨regions, found, sighted⟩ := bind_eq_ok.mp sighted
    split at sighted
    · next region single =>
      obtain ⟨number, only, same⟩ := List.map_eq_singleton_iff.1 (Except.ok.inj sighted)
      obtain ⟨rfl, rest⟩ := Prod.mk.inj same
      obtain ⟨rfl, rfl⟩ := Prod.mk.inj rest
      exact ⟨loaded, regions, region, found, single, only, rfl, inked⟩
    · cases sighted

theorem global_ok (global : request.module = [])
    : resolver.resolveFragmentGlobally request = .ok (source, line, procedure) ↔
      sightings resolver request = .ok [(source, line, procedure)] := by
  unfold sightings Resolver.resolveFragmentGlobally
  rw [if_neg (not_not_intro global)]
  cases resolver.tree.commonModules with
  | none => exact iff_of_false (fun same => by cases same) fun same => by cases same
  | some entries =>
    dsimp only
    constructor
    · intro resolved
      obtain ⟨found, searched, resolved⟩ := bind_eq_ok.mp resolved
      split at resolved
      · rw [searched, Except.ok.inj resolved]
      · cases resolved
    · intro searched
      exact bind_eq_ok.mpr ⟨_, searched, rfl⟩

theorem resolvedPoint_ok {point : ResolvedCapturePoint} :
    resolver.resolvedPoint request source line procedure = .ok point ↔
      identifier functions resolver.project = true ∧ identifier functions procedure = true ∧
        0 < line ∧ (excerpt source.text line ≠ [] ∧
          (excerpt source.text line).length ≤ maxSourceExcerpt) ∧
        point = (bindingOf resolver request ⟨source, line, procedure⟩).point := by
  unfold Resolver.resolvedPoint
  constructor
  · intro resolved
    obtain ⟨_, project, resolved⟩ := bind_eq_ok.mp resolved
    obtain ⟨_, named, resolved⟩ := bind_eq_ok.mp resolved
    obtain ⟨_, positive, resolved⟩ := bind_eq_ok.mp resolved
    obtain ⟨_, bounded, resolved⟩ := bind_eq_ok.mp resolved
    exact ⟨require_eq_ok.mp project, require_eq_ok.mp named, require_eq_ok.mp positive,
      require_eq_ok.mp bounded, (Except.ok.inj resolved).symm⟩
  · rintro ⟨project, named, positive, bounded, rfl⟩
    refine bind_eq_ok.mpr ⟨(), require_eq_ok.mpr project, ?_⟩
    refine bind_eq_ok.mpr ⟨(), require_eq_ok.mpr named, ?_⟩
    refine bind_eq_ok.mpr ⟨(), require_eq_ok.mpr positive, ?_⟩
    exact bind_eq_ok.mpr ⟨(), require_eq_ok.mpr bounded, rfl⟩

theorem requestedPlace_ok :
    resolver.requestedPlace request = .ok (source, line, procedure) ↔
      sightings resolver request = .ok [(source, line, procedure)] ∧ (request.module ≠ [] →
        excerpt source.text line ≠ [] ∧ commented (excerpt source.text line) = false) := by
  unfold Resolver.requestedPlace
  by_cases located : request.module = []
  · rw [if_neg (not_not_intro located), global_ok located]
    exact ⟨fun sighted => ⟨sighted, fun other => absurd located other⟩, And.left⟩
  · rw [if_pos located]
    constructor
    · intro resolved
      obtain ⟨other, loaded, resolved⟩ := bind_eq_ok.mp resolved
      obtain ⟨⟨number, name⟩, found, resolved⟩ := bind_eq_ok.mp resolved
      obtain ⟨rfl, rest⟩ := Prod.mk.inj (Except.ok.inj resolved)
      obtain ⟨rfl, rfl⟩ := Prod.mk.inj rest
      obtain ⟨sighted, inked⟩ := (located_ok located).1 ⟨loaded, found⟩
      exact ⟨sighted, fun _ => inked⟩
    · rintro ⟨sighted, inked⟩
      obtain ⟨loaded, found⟩ := (located_ok located).2 ⟨sighted, inked located⟩
      exact bind_eq_ok.mpr ⟨source, loaded, bind_eq_ok.mpr ⟨(line, procedure), found, rfl⟩⟩

/-- The resolver binds the only line that it sights for a request of its project. -/
theorem resolvePoint_ok {binding : CaptureBinding} :
    resolver.resolvePoint request = .ok binding ↔ SameProject resolver request ∧
      ∃ place : Place, sightings resolver request = .ok [(place.source, place.line, place.procedure)] ∧
        Bindable resolver request place ∧ binding = bindingOf resolver request place := by
  unfold Resolver.resolvePoint
  constructor
  · intro resolved
    obtain ⟨_, project, resolved⟩ := bind_eq_ok.mp resolved
    obtain ⟨⟨source, line, procedure⟩, found, resolved⟩ := bind_eq_ok.mp resolved
    obtain ⟨point, made, resolved⟩ := bind_eq_ok.mp resolved
    obtain ⟨sighted, plain⟩ := requestedPlace_ok.1 found
    obtain ⟨owner, named, positive, ⟨inked, short⟩, rfl⟩ := resolvedPoint_ok.1 made
    exact ⟨require_eq_ok.mp project, ⟨source, line, procedure⟩, sighted,
      ⟨fun located => (plain located).2, owner, named, positive, inked, short⟩,
      (Except.ok.inj resolved).symm⟩
  · rintro ⟨project, ⟨source, line, procedure⟩, sighted, bindable, rfl⟩
    refine bind_eq_ok.mpr ⟨(), require_eq_ok.mpr project, ?_⟩
    refine bind_eq_ok.mpr ⟨(source, line, procedure), requestedPlace_ok.2 ⟨sighted, fun located =>
      ⟨bindable.inked, bindable.uncommented located⟩⟩, ?_⟩
    exact bind_eq_ok.mpr ⟨_, resolvedPoint_ok.2 ⟨bindable.project, bindable.procedure,
      bindable.positive, ⟨bindable.inked, bindable.short⟩, rfl⟩, rfl⟩

/-! ## Loaded modules -/

theorem loadModule_name {name : Text}
    (loaded : resolver.loadModule functions name = .ok source) : source.name = name := by
  unfold Resolver.loadModule at loaded
  split_ifs at loaded
  obtain ⟨content, -, made⟩ := bind_eq_ok.mp loaded
  rw [← Except.ok.inj made]

theorem matchesIn_loaded {fragment : Text} {entries : List (Text × Bool)}
    {found : List (ModuleSource × Nat × Text)}
    (searched : resolver.matchesIn functions fragment entries = .ok found) :
    ∀ sighting ∈ found, resolver.loadModule functions sighting.1.name = .ok sighting.1 := by
  induction entries generalizing found with
  | nil =>
    obtain rfl := Except.ok.inj searched
    exact fun _ member => by cases member
  | cons entry rest follows =>
    obtain ⟨name, directory⟩ := entry
    cases directory with
    | false => exact follows searched
    | true =>
      rw [Resolver.matchesIn] at searched
      split at searched
      · exact follows searched
      · cases searched
      · next source loaded =>
        obtain ⟨here, matched, searched⟩ := bind_eq_ok.mp searched
        obtain ⟨later, restSearched, made⟩ := bind_eq_ok.mp searched
        obtain rfl := Except.ok.inj made
        obtain ⟨regions, -, made⟩ := bind_eq_ok.mp matched
        obtain rfl := Except.ok.inj made
        intro sighting member
        rcases List.mem_append.1 member with here | later
        · obtain ⟨region, -, inRegion⟩ := List.mem_flatMap.1 here
          obtain ⟨line, -, rfl⟩ := List.mem_map.1 inRegion
          rw [loadModule_name loaded, loaded]
        · exact follows restSearched sighting later

/-- What is sighted stands in the module of its name. -/
theorem sightings_loaded {found : List (ModuleSource × Nat × Text)}
    (searched : sightings resolver request = .ok found) :
    ∀ sighting ∈ found, resolver.loadModule functions sighting.1.name = .ok sighting.1 := by
  unfold sightings at searched
  split_ifs at searched with located
  · obtain ⟨source, loaded, searched⟩ := bind_eq_ok.mp searched
    obtain ⟨regions, -, searched⟩ := bind_eq_ok.mp searched
    split at searched
    · obtain rfl := Except.ok.inj searched
      intro sighting member
      obtain ⟨line, -, rfl⟩ := List.mem_map.1 member
      rw [loadModule_name loaded, loaded]
    · cases searched
  · split at searched
    · cases searched
    · exact matchesIn_loaded searched

/-! ## The resolver is right -/

section Right

variable (resolver request)

/-- The resolver answers a request with the line that it means: what it binds is meant, with one
line in the point and in the location, and it does not refuse a request that means a line. -/
structure Right : Prop where
  sound : ∀ binding, resolver.resolvePoint request = .ok binding →
    ∃ source, resolver.loadModule functions binding.point.module = .ok source ∧
      Meant resolver request ⟨source, binding.location.line, binding.point.procedure⟩ ∧
      binding.point.line = binding.location.line ∧
      binding.point.executableLine = binding.location.line ∧
      binding.location.objectId = source.objectId
  complete : ∀ place, Meant resolver request place →
    ∃ binding, resolver.resolvePoint request = .ok binding

/-- The one line that is sighted for a request. -/
def Sighted (place : Place) : Prop :=
  sightings resolver request = .ok [(place.source, place.line, place.procedure)]

end Right

variable {place : Place}

theorem sighted_unique {other : Place} (sighted : Sighted resolver request place)
    (also : Sighted resolver request other) : place = other := by
  obtain ⟨source, line, procedure⟩ := place
  obtain ⟨otherSource, otherLine, otherProcedure⟩ := other
  have same := (List.cons.inj (Except.ok.inj (sighted.symm.trans also))).1
  obtain ⟨rfl, rest⟩ := Prod.mk.inj same
  obtain ⟨rfl, rfl⟩ := Prod.mk.inj rest
  rfl

/-- What is bound for a request that is answered rightly is meant. -/
theorem Right.meant (right : Right resolver request)
    (project : SameProject resolver request) (sighted : Sighted resolver request place)
    (fit : Bindable resolver request place) : Meant resolver request place := by
  obtain ⟨source, loaded, meant, -⟩ :=
    right.sound _ (resolvePoint_ok.2 ⟨project, place, sighted, fit, rfl⟩)
  have here := sightings_loaded sighted _ (List.mem_singleton_self _)
  obtain rfl := Except.ok.inj (here.symm.trans loaded)
  exact meant

end Resolution

/-! ## A form feed before a method -/

section FormFeed

open OnecRuntime.Bsl (identifierPart identifierPattern)
open OnecRuntime.Diagnostics (lowered)

def plainFunctions : SourceFunctions where
  casefold text := text.map lowered
  represent text := String.ofList text
  decimalDigit := Char.isDigit
  wordCharacter := identifierPart
  isIdentifier := identifierPattern

/-- A comment with a form feed stands before the method. -/
def pagedText : Text := "// \x0c\nПроцедура А()\nБ();\nВ();\nКонецПроцедуры".toList

def pagedResolver : Resolver where
  project := "П".toList
  extensionName := []
  tree := ⟨some [("М".toList, true)], fun _ => .ok (1, [], pagedText)⟩

def pagedRequest : CapturePointRequest plainFunctions where
  name := "Точка".toList
  project := "П".toList
  module := "М".toList
  procedure := "А".toList
  line := some 1
  sourceFragment := some "Б()".toList
  named := by decide
  located := fun _ => ⟨by decide, by decide, by decide, 1, rfl, Nat.one_pos⟩
  bounded := by
    rintro fragment same
    obtain rfl := Option.some.inj same
    exact ⟨by decide, by decide⟩
  pointed := fun nowhere => by cases nowhere.1

end FormFeed

end OnecRuntime.Capture
