import Mathlib.Data.List.TakeWhile
import OnecRuntime.Capture.ResolverLaw

/-!
# Plain modules

A module is plain if its lines end at line feeds alone and the shapes of lines find the methods of
the language in it. Both ways of counting then give the same lines, and a request that names a
method goes wrong only at the lines of the method that are not of its body, and at long lines.
-/

namespace OnecRuntime.Capture

open OnecRuntime.Library
open OnecRuntime.Breakpoints (LineIndex lineStartsFrom)
open OnecRuntime.Bsl (isSpace)
open OnecRuntime.SourceMaps (Text)
open OnecRuntime.Diagnostics (strip)

/-! ## Lines of the debugger, one after another -/

/-- The lines of the debugger behind the start of a line. -/
def feedLinesFrom : Text → Text → List Text
  | line, [] => [line]
  | line, char :: rest =>
      if char = '\n' then (line ++ [char]) :: feedLinesFrom [] rest
      else feedLinesFrom (line ++ [char]) rest

/-- The slices of a text between the offsets at which lines begin. -/
theorem feedLinesFrom_slice {whole passed line rest : Text} (same : whole = passed ++ (line ++ rest))
    {number start : Nat}
    (found : (passed.length :: lineStartsFrom (passed.length + line.length) rest)[number]? =
      some start) :
    (feedLinesFrom line rest)[number]? = some ((whole.drop start).take
      ((passed.length :: lineStartsFrom (passed.length + line.length) rest)[number + 1]?.getD
        whole.length - start)) := by
  induction rest generalizing passed line number with
  | nil =>
    rw [lineStartsFrom] at found ⊢
    cases number with
    | zero =>
      obtain rfl := Option.some.inj found
      rw [same, List.drop_left]
      simp [feedLinesFrom]
    | succ number => cases found
  | cons char rest follows =>
    rw [lineStartsFrom] at found ⊢
    rw [feedLinesFrom]
    by_cases feed : char = '\n'
    · rw [if_pos feed] at found ⊢
      rw [if_pos feed]
      have length : passed.length + line.length + 1 = (passed ++ (line ++ [char])).length := by
        simp only [List.length_append, List.length_singleton]
        omega
      cases number with
      | zero =>
        obtain rfl := Option.some.inj found
        have width : passed.length + line.length + 1 - passed.length = (line ++ [char]).length := by
          rw [length, List.length_append, Nat.add_sub_cancel_left]
        have apart : line ++ char :: rest = (line ++ [char]) ++ rest := List.append_cons line char rest
        rw [List.getElem?_cons_zero, List.getElem?_cons_succ, List.getElem?_cons_zero,
          Option.getD_some, same, List.drop_left, width, apart, List.take_left]
      | succ number =>
        rw [List.getElem?_cons_succ] at found
        rw [List.getElem?_cons_succ, List.getElem?_cons_succ]
        rw [length] at found ⊢
        exact @follows (passed ++ (line ++ [char])) [] (by simp [same]) number found
    · rw [if_neg feed] at found ⊢
      rw [if_neg feed]
      have length : passed.length + line.length + 1 = passed.length + (line ++ [char]).length := by
        rw [List.length_append, List.length_singleton, Nat.add_assoc]
      rw [length] at found ⊢
      exact @follows passed (line ++ [char]) (by simp [same]) number found

theorem feedLinesFrom_length (line rest : Text) (offset : Nat) :
    (feedLinesFrom line rest).length = (lineStartsFrom offset rest).length + 1 := by
  induction rest generalizing line offset with
  | nil => rfl
  | cons char rest follows =>
    rw [feedLinesFrom, lineStartsFrom]
    split_ifs
    · rw [List.length_cons, List.length_cons, follows]
    · exact follows _ _

variable {text : Text}

/-- The lines of the debugger are counted from one on. -/
theorem physicalLine_eq {line : Nat} :
    physicalLine text (line + 1) = (feedLinesFrom [] text)[line]? := by
  unfold physicalLine LineIndex.lineRange
  dsimp only
  cases found : (LineIndex.ofText text).lineStarts[line]? with
  | none =>
    have beyond := List.getElem?_eq_none_iff.1 found
    refine (List.getElem?_eq_none ?_).symm
    rw [feedLinesFrom_length [] text 0]
    exact beyond
  | some start =>
    have slice := @feedLinesFrom_slice text [] [] text rfl line start found
    dsimp only
    rw [slice, SourceMaps.SourceSpan.ofWidth_stop, SourceMaps.SourceSpan.ofWidth_start,
      Nat.add_sub_cancel_left]
    rfl

/-! ## Plain lines -/

/-- The text breaks its lines at line feeds, with or without a carriage return before them. -/
def LineFeeds (text : Text) : Prop :=
  ∀ before char after, text = before ++ char :: after → isLineBreak char = true →
    char = '\n' ∨ char = '\r' ∧ after.head? = some '\n'

theorem LineFeeds.rest {char : Char} (feeds : LineFeeds (char :: text)) :
    LineFeeds text := by
  intro before other after same broken
  exact feeds (char :: before) other after (by rw [same]; rfl) broken

/-- The end of a line of the debugger. -/
def LineEnd (ending : Text) : Prop := ending = [] ∨ ending = ['\n'] ∨ ending = ['\r', '\n']

/-- Both ways of counting yield the same lines; the debugger may have an empty one at the end. -/
theorem feedLinesFrom_split {line rest : Text} (feeds : LineFeeds rest) {number : Nat} {content : Text}
    (found : (feedLinesFrom line rest)[number]? = some content) :
    ∃ ending, LineEnd ending ∧ content = (splitLinesFrom line rest)[number]?.getD [] ++ ending := by
  induction line, rest using splitLinesFrom.induct generalizing number with
  | case1 =>
    rw [feedLinesFrom] at found
    cases number with
    | zero =>
      obtain rfl := Option.some.inj found
      exact ⟨[], .inl rfl, rfl⟩
    | succ number => cases found
  | case2 line some_line =>
    rw [feedLinesFrom] at found
    cases number with
    | zero =>
      obtain rfl := Option.some.inj found
      refine ⟨[], .inl rfl, ?_⟩
      rw [splitLinesFrom, if_neg some_line, List.append_nil]
      rfl
    | succ number => cases found
  | case3 line rest follows =>
    rw [feedLinesFrom, if_neg (by decide), feedLinesFrom, if_pos rfl] at found
    rw [splitLinesFrom]
    cases number with
    | zero =>
      obtain rfl := Option.some.inj found
      exact ⟨['\r', '\n'], .inr (.inr rfl), List.append_assoc _ _ _⟩
    | succ number => exact follows feeds.rest.rest found
  | case4 line char rest other broken follows =>
    have feed : char = '\n' := by
      rcases feeds [] char rest rfl broken with feed | ⟨rfl, feed⟩
      · exact feed
      · obtain ⟨later, rfl⟩ := List.head?_eq_some_iff.1 feed
        exact (other later rfl rfl).elim
    subst feed
    rw [feedLinesFrom, if_pos rfl] at found
    rw [splitLinesFrom, if_pos broken]
    · cases number with
      | zero =>
        obtain rfl := Option.some.inj found
        exact ⟨['\n'], .inr (.inl rfl), rfl⟩
      | succ number => exact follows feeds.rest found
    · exact other
  | case5 line char rest other solid follows =>
    have no_feed : char ≠ '\n' := by
      rintro rfl
      exact solid rfl
    rw [feedLinesFrom, if_neg no_feed] at found
    rw [splitLinesFrom, if_neg solid]
    · exact follows feeds.rest found
    · exact other

theorem splitLinesFrom_length {line rest : Text} (feeds : LineFeeds rest) :
    (splitLinesFrom line rest).length ≤ (feedLinesFrom line rest).length := by
  induction line, rest using splitLinesFrom.induct with
  | case1 => exact Nat.zero_le _
  | case2 line some_line =>
    rw [splitLinesFrom, if_neg some_line, feedLinesFrom]
  | case3 line rest follows =>
    rw [feedLinesFrom, if_neg (by decide), feedLinesFrom, if_pos rfl, splitLinesFrom]
    exact Nat.succ_le_succ (follows feeds.rest.rest)
  | case4 line char rest other broken follows =>
    rw [splitLinesFrom, if_pos broken]
    · rcases feeds [] char rest rfl broken with rfl | ⟨rfl, feed⟩
      · rw [feedLinesFrom, if_pos rfl]
        exact Nat.succ_le_succ (follows feeds.rest)
      · obtain ⟨later, rfl⟩ := List.head?_eq_some_iff.1 feed
        exact (other later rfl rfl).elim
    · exact other
  | case5 line char rest other solid follows =>
    have no_feed : char ≠ '\n' := by
      rintro rfl
      exact solid rfl
    rw [splitLinesFrom, if_neg solid, feedLinesFrom, if_neg no_feed]
    · exact follows feeds.rest
    · exact other

/-! ## The ends of lines -/

theorem LineEnd.spaces {ending : Text} (ends : LineEnd ending) :
    ∀ char ∈ ending, isSpace char = true := by
  rcases ends with rfl | rfl | rfl <;> exact List.forall_iff_forall_mem.1 (by decide)

theorem dropWhile_spaces {spaces rest : Text} (all : ∀ char ∈ spaces, isSpace char = true) :
    (spaces ++ rest).dropWhile isSpace = rest.dropWhile isSpace := by
  rw [List.dropWhile_append, List.dropWhile_eq_nil_iff.2 all, if_pos List.isEmpty_nil]

theorem strip_append {line spaces : Text} (all : ∀ char ∈ spaces, isSpace char = true) :
    strip (line ++ spaces) = strip line := by
  unfold strip
  rw [List.dropWhile_append]
  by_cases blank : line.dropWhile isSpace = []
  · rw [blank, if_pos List.isEmpty_nil, List.dropWhile_eq_nil_iff.2 all]
  · rw [if_neg (by simpa using blank), List.reverse_append]
    rw [dropWhile_spaces fun char member => all char (List.mem_reverse.1 member)]

theorem strip_last {char : Char} (last : (strip text).getLast? = some char) :
    isSpace char = false := by
  unfold strip at last
  rw [List.getLast?_reverse] at last
  have stops := List.head?_dropWhile_not isSpace (text.dropWhile isSpace).reverse
  rw [last] at stops
  simpa using stops

/-- What does not end in a space stands before the spaces at the end of a line. -/
theorem infix_spaces {word line spaces : Text} (all : ∀ char ∈ spaces, isSpace char = true)
    (ends : ∀ char, word.getLast? = some char → isSpace char = false) :
    word <:+: line ++ spaces ↔ word <:+: line := by
  induction spaces using List.reverseRecOn with
  | nil => rw [List.append_nil]
  | append_singleton spaces space follows =>
    rw [← follows fun char member => all char (List.mem_append_left _ member), ← List.append_assoc,
      List.infix_concat_iff]
    refine or_iff_right_of_imp fun behind => ?_
    cases word using List.reverseRecOn with
    | nil => exact List.nil_infix
    | append_singleton word last =>
      have same : last = space := by
        have lasts := behind.getLast (by simp)
        simpa using lasts
      have blank := all space (by simp)
      rw [← same, ends last (by simp)] at blank
      cases blank

section Content

variable {text : Text} (feeds : LineFeeds text)
include feeds

/-- A line of the debugger and the line of the same number by Python's count. -/
theorem physicalLine_content {line : Nat} {content : Text}
    (found : physicalLine text (line + 1) = some content) :
    strip content = strip ((splitLines text)[line]?.getD []) ∧
      ∀ fragment, strip fragment <:+: content ↔
        strip fragment <:+: (splitLines text)[line]?.getD [] := by
  rw [physicalLine_eq] at found
  obtain ⟨ending, ends, rfl⟩ := feedLinesFrom_split feeds found
  exact ⟨strip_append ends.spaces, fun fragment => infix_spaces ends.spaces fun char last =>
    strip_last last⟩

theorem physicalLine_exists {line : Nat} (inside : line < (splitLines text).length) :
    ∃ content, physicalLine text (line + 1) = some content := by
  rw [physicalLine_eq]
  exact ⟨_, List.getElem?_eq_getElem (inside.trans_le (splitLinesFrom_length feeds))⟩

end Content

/-! ## Plain modules -/

section Modules

variable (functions : SourceFunctions)

def Method.region (method : Method) : Region := ⟨method.name, method.first, method.last⟩

/-- The lines of a module end at line feeds, and the shapes of lines find the methods of the
language. -/
structure Plain (text : Text) : Prop where
  feeds : LineFeeds text
  regions : procedureRegions functions text = .ok ((methods functions text).map Method.region)

end Modules

section Located

variable {functions : SourceFunctions} {resolver : Resolver} {request : CapturePointRequest functions}
  {source : ModuleSource} {line : Nat}

variable {fragment : Text}

theorem holds_iff (feeds : LineFeeds source.text) (some_text : strip fragment ≠ []) :
    Holds source fragment line ↔ 0 < line ∧ ∃ content,
      (splitLines source.text)[line - 1]? = some content ∧ strip fragment <:+: content := by
  cases line with
  | zero =>
    refine iff_of_false ?_ fun both => Nat.lt_irrefl 0 both.1
    rintro ⟨content, found, -⟩
    cases found
  | succ earlier =>
    rw [Nat.add_sub_cancel]
    constructor
    · rintro ⟨content, found, held⟩
      have split := ((physicalLine_content feeds found).2 fragment).1 held
      cases same : (splitLines source.text)[earlier]? with
      | none =>
        rw [same] at split
        exact absurd (List.infix_nil.1 split) some_text
      | some other =>
        rw [same] at split
        exact ⟨Nat.succ_pos _, other, rfl, split⟩
    · rintro ⟨-, content, same, held⟩
      obtain ⟨whole, found⟩ := physicalLine_exists feeds (List.getElem?_eq_some_iff.1 same).1
      refine ⟨whole, found, ((physicalLine_content feeds found).2 fragment).2 ?_⟩
      rw [same]
      exact held

theorem executable_iff (feeds : LineFeeds source.text) : Executable source line ↔ 0 < line ∧
    excerpt source.text line ≠ [] ∧ commented (excerpt source.text line) = false := by
  unfold excerpt
  cases line with
  | zero =>
    refine iff_of_false ?_ fun both => Nat.lt_irrefl 0 both.1
    rintro ⟨content, found, -⟩
    cases found
  | succ earlier =>
    rw [Nat.add_sub_cancel]
    constructor
    · rintro ⟨content, found, inked⟩
      rw [(physicalLine_content feeds found).1] at inked
      exact ⟨Nat.succ_pos _, inked⟩
    · rintro ⟨-, inked, plain⟩
      have inside : earlier < (splitLines source.text).length := by
        by_contra beyond
        rw [List.getElem?_eq_none (Nat.not_lt.1 beyond)] at inked
        exact inked rfl
      obtain ⟨content, found⟩ := physicalLine_exists feeds inside
      refine ⟨content, found, ?_⟩
      rw [(physicalLine_content feeds found).1]
      exact ⟨inked, plain⟩

theorem fragmentLinesFrom_ascending {first last number : Nat} {lines : List Text} :
    (fragmentLinesFrom fragment first last number lines).Pairwise (· < ·) := by
  induction lines generalizing number with
  | nil => exact .nil
  | cons content rest follows =>
    rw [fragmentLinesFrom]
    split_ifs
    · exact .cons (fun later member => (mem_fragmentLinesFrom.1 member).2.2.1) follows
    · exact follows

theorem eq_singleton {numbers : List Nat} {number : Nat} (ascending : numbers.Pairwise (· < ·))
    (only : ∀ other, other ∈ numbers ↔ other = number) : numbers = [number] := by
  cases numbers with
  | nil => cases (only number).2 rfl
  | cons first rest =>
    obtain rfl := (only first).1 List.mem_cons_self
    cases rest with
    | nil => rfl
    | cons second rest =>
      have below := List.rel_of_pairwise_cons ascending List.mem_cons_self
      have same := (only second).1 (List.mem_cons_of_mem _ List.mem_cons_self)
      omega

variable (located : request.module ≠ [])
  (loaded : resolver.loadModule functions request.module = .ok source)

include located in
theorem request_located : identifier functions request.procedure = true ∧
    ∃ number, request.line = some number ∧ 0 < number := by
  obtain ⟨-, -, named, given⟩ := request.located fun nowhere => located nowhere.2.1
  exact ⟨named, given⟩

variable {method : Method}

include located loaded in
/-- A located request searches the one method of its name in its module. -/
theorem searched_iff {other : ModuleSource} :
    Searched resolver request other method ↔
      other = source ∧ methodsNamed functions source.text request.procedure = [method] := by
  constructor
  · intro searched
    cases searched with
    | named _ also single =>
      obtain rfl := Except.ok.inj (loaded.symm.trans also)
      exact ⟨rfl, single⟩
    | anywhere anonymous => exact absurd anonymous located
  · rintro ⟨rfl, single⟩
    exact .named located loaded single

theorem matching_methods (found : List Method) :
    Resolver.matching request (found.map Method.region) = (found.filter fun method =>
      functions.casefold method.name = functions.casefold request.procedure).map Method.region :=
  List.filter_map

theorem mem_fragmentLines_iff (feeds : LineFeeds source.text)
    (some_text : strip fragment ≠ []) :
    line ∈ fragmentLines source.text fragment method.first method.last ↔
      method.Covers line ∧ Holds source fragment line := by
  rw [mem_fragmentLines, holds_iff feeds some_text, Method.Covers, and_assoc]

include located loaded in
/-- The candidates of a request in a plain module are the lines asked for. -/
theorem candidates_iff (feeds : LineFeeds source.text)
    (single : methodsNamed functions source.text request.procedure = [method]) :
    candidates source.text request method.region = [line] ↔
      method.Covers line ∧ Asked resolver request source line := by
  unfold candidates Asked
  cases given : request.sourceFragment with
  | some fragment =>
    have some_text := (request.bounded fragment given).1
    dsimp only
    constructor
    · intro only
      have among (number : Nat) : number ∈ [line] ↔ method.Covers number ∧ Holds source fragment number := by
        rw [← only]
        exact mem_fragmentLines_iff feeds some_text
      obtain ⟨covers, holds⟩ := (among line).1 (List.mem_singleton_self line)
      refine ⟨covers, holds, fun other otherMethod number searched covered held => ?_⟩
      obtain ⟨rfl, also⟩ := (searched_iff located loaded).1 searched
      obtain rfl := (List.cons.inj (single.symm.trans also)).1
      exact ⟨rfl, List.mem_singleton.1 ((among number).2 ⟨covered, held⟩)⟩
    · rintro ⟨covers, holds, alone⟩
      refine eq_singleton fragmentLinesFrom_ascending fun number => ?_
      refine (mem_fragmentLines_iff feeds some_text).trans ⟨fun held => ?_, ?_⟩
      · exact (alone source method number ((searched_iff located loaded).2 ⟨rfl, single⟩) held.1 held.2).2
      · rintro rfl
        exact ⟨covers, holds⟩
  | none =>
    obtain ⟨number, asked⟩ := line_of_no_fragment request given
    rw [asked]
    dsimp only [Option.toList_some]
    by_cases inside : method.region.first ≤ number ∧ number ≤ method.region.last
    · rw [List.filter_cons, if_pos (by exact decide_eq_true inside), List.filter_nil]
      constructor
      · intro only
        obtain rfl := (List.cons.inj only).1
        exact ⟨inside, rfl⟩
      · rintro ⟨-, same⟩
        rw [Option.some.inj same]
    · rw [List.filter_cons, if_neg (by simpa using inside), List.filter_nil]
      refine iff_of_false (fun same => by cases same) ?_
      rintro ⟨covers, same⟩
      rw [← Option.some.inj same] at covers
      exact inside covers

include located loaded in
theorem sighted_iff (plain : Plain functions source.text) {place : Place} :
    Sighted resolver request place ↔ place.source = source ∧ place.procedure = request.procedure ∧
      ∃ method, methodsNamed functions source.text request.procedure = [method] ∧
        method.Covers place.line ∧ Asked resolver request source place.line := by
  obtain ⟨other, number, procedure⟩ := place
  dsimp only
  unfold Sighted sightings
  rw [if_pos located]
  constructor
  · intro sighted
    obtain ⟨also, alsoLoaded, sighted⟩ := bind_eq_ok.mp sighted
    obtain rfl := Except.ok.inj (loaded.symm.trans alsoLoaded)
    obtain ⟨regions, found, sighted⟩ := bind_eq_ok.mp sighted
    obtain rfl := Except.ok.inj (plain.regions.symm.trans found)
    rw [matching_methods] at sighted
    split at sighted
    · next region matched =>
      obtain ⟨method, single, rfl⟩ := List.map_eq_singleton_iff.1 matched
      obtain ⟨line, only, same⟩ := List.map_eq_singleton_iff.1 (Except.ok.inj sighted)
      obtain ⟨rfl, rest⟩ := Prod.mk.inj same
      obtain ⟨rfl, rfl⟩ := Prod.mk.inj rest
      exact ⟨rfl, rfl, method, single, (candidates_iff located loaded plain.feeds single).1 only⟩
    · cases sighted
  · rintro ⟨rfl, rfl, method, single, asked⟩
    refine bind_eq_ok.mpr ⟨_, loaded, bind_eq_ok.mpr ⟨_, plain.regions, ?_⟩⟩
    have only := (candidates_iff located loaded plain.feeds single).2 asked
    unfold methodsNamed at single
    rw [matching_methods, single]
    exact congrArg (fun lines : List Nat => Except.ok (lines.map fun line =>
      (other, line, request.procedure))) only

end Located

/-! ## What goes wrong in a plain module -/

/-- In a plain module the resolver answers a request for a method with the line that it means,
unless the line asked for is not of the body, as the lines of the declaration and of the end, or
is too long. -/
theorem plain_right_iff {functions : SourceFunctions} {resolver : Resolver}
    {request : CapturePointRequest functions} {source : ModuleSource}
    (located : request.module ≠ [])
    (loaded : resolver.loadModule functions request.module = .ok source)
    (plain : Plain functions source.text) (owner : identifier functions resolver.project = true) :
    Right resolver request ↔ (SameProject resolver request → ∀ method line,
      methodsNamed functions source.text request.procedure = [method] → method.Covers line →
        Asked resolver request source line → Executable source line →
          (method.Within line ↔ (excerpt source.text line).length ≤ maxSourceExcerpt)) := by
  have named := (request_located located).1
  have fit {line : Nat} (executable : Executable source line)
      (short : (excerpt source.text line).length ≤ maxSourceExcerpt) :
      Bindable resolver request ⟨source, line, request.procedure⟩ := by
    obtain ⟨positive, inked, uncommented⟩ := (executable_iff plain.feeds).1 executable
    exact ⟨fun _ => uncommented, owner, named, positive, inked, short⟩
  constructor
  · intro right project method line single covers asked executable
    have sighted : Sighted resolver request ⟨source, line, request.procedure⟩ :=
      (sighted_iff located loaded plain).2 ⟨rfl, rfl, method, single, covers, asked⟩
    constructor
    · intro within
      have inside : Inside resolver request ⟨source, line, request.procedure⟩ :=
        ⟨method, (searched_iff located loaded).2 ⟨rfl, single⟩, single, within⟩
      obtain ⟨binding, resolved⟩ := right.complete _ ⟨project, inside, asked, executable⟩
      obtain ⟨-, other, also, bindable, -⟩ := resolvePoint_ok.1 resolved
      obtain rfl := sighted_unique sighted also
      exact bindable.short
    · intro short
      obtain ⟨other, -, also, within⟩ := (right.meant project sighted (fit executable short)).inside
      obtain rfl := (List.cons.inj (single.symm.trans also)).1
      exact within
  · intro agrees
    refine ⟨fun binding resolved => ?_, fun place meant => ?_⟩
    · obtain ⟨project, ⟨other, line, procedure⟩, sighted, bindable, rfl⟩ := resolvePoint_ok.1 resolved
      obtain ⟨rfl, rfl, method, single, covers, asked⟩ := (sighted_iff located loaded plain).1 sighted
      have executable : Executable other line := (executable_iff plain.feeds).2
        ⟨bindable.positive, bindable.inked, bindable.uncommented located⟩
      have within := (agrees project method line single covers asked executable).2 bindable.short
      have inside : Inside resolver request ⟨other, line, request.procedure⟩ :=
        ⟨method, (searched_iff located loaded).2 ⟨rfl, single⟩, single, within⟩
      exact ⟨other, sightings_loaded sighted _ (List.mem_singleton_self _),
        ⟨project, inside, asked, executable⟩, rfl, rfl, rfl⟩
    · obtain ⟨project, ⟨method, searched, -, within⟩, asked, executable⟩ := meant
      obtain ⟨same, single⟩ := (searched_iff located loaded).1 searched
      obtain ⟨other, line, procedure⟩ := place
      dsimp only at same asked executable within
      subst same
      have short := (agrees project method line single within.1 asked executable).1 within
      exact ⟨_, resolvePoint_ok.2 ⟨project, _, (sighted_iff located loaded plain).2
        ⟨rfl, rfl, method, single, within.1, asked⟩, fit executable short, rfl⟩⟩

def plainText : Text := "Процедура А()\nБ();\nКонецПроцедуры".toList

theorem plainText_plain : Plain plainFunctions plainText := by
  have breaks : (plainText.filter isLineBreak).all (· = '\n') = true := rfl
  exact ⟨fun _ char _ same broken => .inl (of_decide_eq_true
    (List.all_eq_true.1 breaks char (List.mem_filter.2 ⟨by simp [same], broken⟩))), rfl⟩

/-- The line of the call is answered. -/
theorem plain_request_right : ∃ (resolver : Resolver)
    (request : CapturePointRequest plainFunctions), request.line = some 2 ∧
      Right resolver request := by
  let resolver : Resolver := { pagedResolver with
    tree := ⟨some [("М".toList, true)], fun _ => .ok (1, [], plainText)⟩ }
  let request : CapturePointRequest plainFunctions := { pagedRequest with
    line := some 2
    sourceFragment := none
    located := fun _ => ⟨by decide, by decide, by decide, 2, rfl, Nat.two_pos⟩
    bounded := nofun
    pointed := fun nowhere => by cases nowhere.1 }
  refine ⟨resolver, request, rfl, (plain_right_iff (by decide) rfl plainText_plain rfl).2 ?_⟩
  intro _ method line single _ asked _
  obtain rfl : 2 = line := Option.some.inj asked
  obtain rfl := (List.cons.inj single).1
  exact iff_of_true ⟨⟨by decide, by decide⟩, 2, 2, rfl, le_rfl, le_rfl⟩ (by decide)

end OnecRuntime.Capture
