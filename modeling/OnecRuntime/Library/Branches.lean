import Mathlib.Data.List.Basic

/-!
# Nested conditionals

Conditionals of any depth among the items of a sequence: a grammar of what is well nested, the
blocks that a well nested sequence stands for, and what they select - the first branch of a
conditional that holds. An assembly reads the items one by one with the conditionals that are open,
and ends with the blocks exactly where the grammar has a derivation.
-/

namespace OnecRuntime.Library

inductive Item (α : Type) where
  | code (token : α)
  | service
  | opening (value : Bool)
  | alternative (value : Bool)
  | otherwise
  | closing

inductive Block (α : Type) where
  | code (token : α)
  | conditional (branches : List (Bool × List (Block α)))

variable {α : Type}

/-! ## Selections -/

mutual

def Block.selected : Block α → List α
  | .code token => [token]
  | .conditional branches => firstSelected branches

/-- What the first branch selects that holds. -/
def firstSelected : List (Bool × List (Block α)) → List α
  | [] => []
  | (true, blocks) :: _ => selected blocks
  | (false, _) :: rest => firstSelected rest

def selected : List (Block α) → List α
  | [] => []
  | block :: rest => block.selected ++ selected rest

end

theorem selected_append (first second : List (Block α)) :
    selected (first ++ second) = selected first ++ selected second := by
  induction first with
  | nil => rfl
  | cons block rest follows =>
    rw [List.cons_append, selected, selected, follows, List.append_assoc]

theorem selected_singleton (block : Block α) : selected [block] = block.selected :=
  List.append_nil _

/-- A branch counts where none before it holds. -/
theorem firstSelected_last (finished : List (Bool × List (Block α))) (value : Bool)
    (blocks : List (Block α)) :
    firstSelected (finished ++ [(value, blocks)]) =
      if finished.any Prod.fst then firstSelected finished
      else if value then selected blocks else [] := by
  induction finished with
  | nil =>
    cases value with
    | true => exact firstSelected.eq_2 _ _
    | false => exact (firstSelected.eq_3 _ _).trans firstSelected.eq_1
  | cons branch rest follows =>
    obtain ⟨held, inner⟩ := branch
    cases held with
    | true =>
      rw [List.cons_append, firstSelected.eq_2, firstSelected.eq_2]
      rfl
    | false =>
      rw [List.cons_append, firstSelected.eq_3, firstSelected.eq_3, follows]
      rfl

/-! ## The grammar -/

/-- A branch with the items that it is written in. -/
structure Branch (α : Type) where
  value : Bool
  items : List (Item α)
  blocks : List (Block α)

def alternatives (branches : List (Branch α)) : List (Item α) :=
  branches.flatMap fun branch => .alternative branch.value :: branch.items

/-- The first branch and the alternatives, each behind its condition. -/
def branchItems : List (Branch α) → List (Item α)
  | [] => []
  | first :: rest => .opening first.value :: first.items ++ alternatives rest

def otherwiseItems : Option (Branch α) → List (Item α)
  | none => []
  | some last => .otherwise :: last.items

def Branch.part (branch : Branch α) : Bool × List (Block α) := (branch.value, branch.blocks)

/-- The items are well nested, and stand for the blocks. -/
inductive Nested : List (Item α) → List (Block α) → Prop
  | nil : Nested [] []
  | code {token : α} {items : List (Item α)} {blocks : List (Block α)} (rest : Nested items blocks) :
      Nested (.code token :: items) (.code token :: blocks)
  | service {items : List (Item α)} {blocks : List (Block α)} (rest : Nested items blocks) :
      Nested (.service :: items) blocks
  | conditional {branches : List (Branch α)} {last : Option (Branch α)} {items : List (Item α)}
      {blocks : List (Block α)} (opened : branches ≠ [])
      (each : ∀ branch ∈ branches, Nested branch.items branch.blocks)
      (holds : ∀ branch ∈ last, branch.value = true)
      (ending : ∀ branch ∈ last, Nested branch.items branch.blocks)
      (rest : Nested items blocks) :
      Nested (branchItems branches ++ otherwiseItems last ++ .closing :: items)
        (.conditional ((branches ++ last.toList).map Branch.part) :: blocks)

theorem Nested.append {first second : List (Item α)} {left right : List (Block α)}
    (before : Nested first left) (behind : Nested second right) :
    Nested (first ++ second) (left ++ right) := by
  induction before with
  | nil => exact behind
  | code _ follows => exact .code follows
  | service _ follows => exact .service follows
  | conditional opened each holds ending _ _ _ follows =>
    rw [List.append_assoc, List.cons_append]
    exact .conditional opened each holds ending follows

/-! ## The assembly -/

/-- A conditional that is open: what stands before it, the branches that are complete, and the
value of the open one, which may be the last. -/
structure Level (α : Type) where
  before : List (Block α)
  finished : List (Bool × List (Block α))
  value : Bool
  last : Bool

/-- The conditionals that are open, the innermost first, and the blocks of the innermost branch. -/
structure Assembly (α : Type) where
  levels : List (Level α)
  current : List (Block α)

namespace Assembly

def start : Assembly α := ⟨[], []⟩

def advance : Assembly α → Item α → Option (Assembly α)
  | ⟨levels, current⟩, .code token => some ⟨levels, current ++ [.code token]⟩
  | assembly, .service => some assembly
  | ⟨levels, current⟩, .opening value => some ⟨⟨current, [], value, false⟩ :: levels, []⟩
  | ⟨level :: levels, current⟩, .alternative value =>
      if level.last then none
      else some ⟨⟨level.before, level.finished ++ [(level.value, current)], value, false⟩ :: levels, []⟩
  | ⟨level :: levels, current⟩, .otherwise =>
      if level.last then none
      else some ⟨⟨level.before, level.finished ++ [(level.value, current)], true, true⟩ :: levels, []⟩
  | ⟨level :: levels, current⟩, .closing =>
      some ⟨levels, level.before ++ [.conditional (level.finished ++ [(level.value, current)])]⟩
  | ⟨[], _⟩, _ => none

theorem advance_alternative (levels : List (Level α)) (before current : List (Block α))
    (finished : List (Bool × List (Block α))) (held value : Bool) :
    advance ⟨⟨before, finished, held, false⟩ :: levels, current⟩ (.alternative value) =
      some ⟨⟨before, finished ++ [(held, current)], value, false⟩ :: levels, []⟩ := rfl

theorem advance_otherwise (levels : List (Level α)) (before current : List (Block α))
    (finished : List (Bool × List (Block α))) (held : Bool) :
    advance ⟨⟨before, finished, held, false⟩ :: levels, current⟩ .otherwise =
      some ⟨⟨before, finished ++ [(held, current)], true, true⟩ :: levels, []⟩ := rfl

def run : Assembly α → List (Item α) → Option (Assembly α)
  | assembly, [] => some assembly
  | assembly, item :: rest => (assembly.advance item).bind fun later => later.run rest

theorem run_append (assembly : Assembly α) (first second : List (Item α)) :
    assembly.run (first ++ second) = (assembly.run first).bind fun later => later.run second := by
  induction first generalizing assembly with
  | nil => rfl
  | cons item rest follows =>
    rw [List.cons_append, run, run]
    cases assembly.advance item with
    | none => rfl
    | some later => exact follows later

/-- A conditional between two alternatives: the finished branches and the open one. -/
theorem run_alternatives {branches : List (Branch α)}
    (each : ∀ branch ∈ branches, ∀ assembly : Assembly α,
      assembly.run branch.items = some ⟨assembly.levels, assembly.current ++ branch.blocks⟩)
    (levels : List (Level α)) (before : List (Block α)) (finished : List (Bool × List (Block α)))
    (value : Bool) (current : List (Block α)) :
    ∃ done held blocks, (⟨⟨before, finished, value, false⟩ :: levels, current⟩ : Assembly α).run
        (alternatives branches) = some ⟨⟨before, done, held, false⟩ :: levels, blocks⟩ ∧
      done ++ [(held, blocks)] = finished ++ (value, current) :: branches.map Branch.part := by
  induction branches generalizing finished value current with
  | nil => exact ⟨finished, value, current, rfl, rfl⟩
  | cons branch rest follows =>
    obtain ⟨done, held, blocks, ran, same⟩ := follows
      (fun other among => each other (List.mem_cons_of_mem _ among))
      (finished ++ [(value, current)]) branch.value branch.blocks
    refine ⟨done, held, blocks, ?_, ?_⟩
    · show ((advance _ _).bind fun later => later.run (branch.items ++ alternatives rest)) = _
      rw [advance_alternative, Option.bind_some, run_append,
        each branch List.mem_cons_self, Option.bind_some, List.nil_append]
      exact ran
    · rw [same, List.append_assoc]
      rfl

theorem run_nested {items : List (Item α)} {blocks : List (Block α)} (nested : Nested items blocks)
    (assembly : Assembly α) :
    assembly.run items = some ⟨assembly.levels, assembly.current ++ blocks⟩ := by
  induction nested generalizing assembly with
  | nil =>
    rw [List.append_nil]
    rfl
  | code _ follows =>
    refine (follows _).trans ?_
    rw [List.append_assoc]
    rfl
  | service _ follows => exact follows _
  | @conditional branches last items blocks opened each holds ending rest branch final follows =>
    obtain ⟨levels, current⟩ := assembly
    cases branches with
    | nil => exact absurd rfl opened
    | cons first others =>
      obtain ⟨done, held, inner, ran, same⟩ := run_alternatives
        (fun other among => branch other (List.mem_cons_of_mem _ among)) levels current [] first.value
        first.blocks
      have opens : (⟨levels, current⟩ : Assembly α).run (branchItems (first :: others)) =
          some ⟨⟨current, done, held, false⟩ :: levels, inner⟩ := by
        show (⟨⟨current, [], first.value, false⟩ :: levels, []⟩ : Assembly α).run
          (first.items ++ alternatives others) = _
        rw [run_append, branch first List.mem_cons_self, Option.bind_some]
        exact ran
      rw [run_append, run_append, opens, Option.bind_some]
      cases last with
      | none =>
        rw [otherwiseItems, run, Option.bind_some]
        refine (follows _).trans ?_
        rw [same]
        simp [Branch.part]
      | some ended =>
        rw [otherwiseItems, run, advance_otherwise, Option.bind_some, final ended rfl,
          Option.bind_some]
        refine (follows _).trans ?_
        rw [same, List.nil_append, List.nil_append]
        simp [Branch.part, holds ended rfl]

/-- The items that were read, with the conditionals that they have left open. -/
inductive Open : List (Item α) → List (Level α) → List (Block α) → Prop
  | outer {items : List (Item α)} {current : List (Block α)} (nested : Nested items current) :
      Open items [] current
  | branch {items body : List (Item α)} {levels : List (Level α)} {before current : List (Block α)}
      {finished : List (Branch α)} {value : Bool} (outside : Open items levels before)
      (each : ∀ branch ∈ finished, Nested branch.items branch.blocks) (nested : Nested body current) :
      Open (items ++ branchItems (finished ++ [⟨value, body, current⟩]))
        (⟨before, finished.map Branch.part, value, false⟩ :: levels) current
  | last {items body : List (Item α)} {levels : List (Level α)} {before current : List (Block α)}
      {finished : List (Branch α)} (outside : Open items levels before) (opened : finished ≠ [])
      (each : ∀ branch ∈ finished, Nested branch.items branch.blocks) (nested : Nested body current) :
      Open (items ++ (branchItems finished ++ .otherwise :: body))
        (⟨before, finished.map Branch.part, true, true⟩ :: levels) current

theorem branchItems_last (finished : List (Branch α)) (value : Bool) (body more : List (Item α))
    (current blocks : List (Block α)) :
    branchItems (finished ++ [⟨value, body ++ more, blocks⟩]) =
      branchItems (finished ++ [⟨value, body, current⟩]) ++ more := by
  cases finished with
  | nil => simp [branchItems, alternatives]
  | cons first rest => simp [branchItems, alternatives]

theorem branchItems_alternative {branches : List (Branch α)} (opened : branches ≠ []) (value : Bool)
    (blocks : List (Block α)) :
    branchItems (branches ++ [⟨value, [], blocks⟩]) = branchItems branches ++ [.alternative value] := by
  cases branches with
  | nil => exact absurd rfl opened
  | cons first rest => simp [branchItems, alternatives]

/-- Well nested items go into the innermost branch. -/
theorem Open.extend {items more : List (Item α)} {levels : List (Level α)}
    {current blocks : List (Block α)} (opened : Open items levels current)
    (nested : Nested more blocks) : Open (items ++ more) levels (current ++ blocks) := by
  cases opened with
  | outer before => exact .outer (before.append nested)
  | branch outside each before =>
    rw [List.append_assoc, ← branchItems_last _ _ _ _ _ (current ++ blocks)]
    exact .branch outside each (before.append nested)
  | last outside opened each before =>
    rw [List.append_assoc, List.append_assoc]
    exact .last outside opened each (before.append nested)

theorem Open.advance {items : List (Item α)} {assembly later : Assembly α} {item : Item α}
    (opened : Open items assembly.levels assembly.current)
    (advanced : assembly.advance item = some later) :
    Open (items ++ [item]) later.levels later.current := by
  obtain ⟨levels, current⟩ := assembly
  cases item with
  | code token =>
    obtain rfl := Option.some.inj advanced
    exact opened.extend (.code .nil)
  | service =>
    obtain rfl := Option.some.inj advanced
    exact List.append_nil current ▸ opened.extend (.service .nil)
  | opening value =>
    obtain rfl := Option.some.inj advanced
    exact .branch opened (List.forall_mem_nil _) .nil
  | alternative value =>
    cases opened with
    | outer => cases advanced
    | last => cases advanced
    | @branch items body levels before current finished held outside each nested =>
      obtain rfl := Option.some.inj advanced
      have whole : ∀ branch ∈ finished ++ [⟨held, body, current⟩],
          Nested branch.items branch.blocks :=
        List.forall_mem_append.2 ⟨each, List.forall_mem_singleton.2 nested⟩
      have extended : Open (items ++ branchItems (finished ++ [⟨held, body, current⟩] ++
          [⟨value, [], []⟩])) _ [] := .branch outside whole .nil
      rw [branchItems_alternative (List.append_ne_nil_of_right_ne_nil _ (List.cons_ne_nil _ _)),
        List.map_append] at extended
      rw [List.append_assoc]
      exact extended
  | otherwise =>
    cases opened with
    | outer => cases advanced
    | last => cases advanced
    | @branch items body levels before current finished held outside each nested =>
      obtain rfl := Option.some.inj advanced
      have whole : ∀ branch ∈ finished ++ [⟨held, body, current⟩],
          Nested branch.items branch.blocks :=
        List.forall_mem_append.2 ⟨each, List.forall_mem_singleton.2 nested⟩
      have ended : Open _ _ _ := .last outside
        (List.append_ne_nil_of_right_ne_nil _ (List.cons_ne_nil _ _)) whole .nil
      rw [List.map_append] at ended
      rw [List.append_assoc]
      exact ended
  | closing =>
    cases opened with
    | outer => cases advanced
    | @branch items body levels before current finished held outside each nested =>
      obtain rfl := Option.some.inj advanced
      have whole : ∀ branch ∈ finished ++ [⟨held, body, current⟩],
          Nested branch.items branch.blocks :=
        List.forall_mem_append.2 ⟨each, List.forall_mem_singleton.2 nested⟩
      have closed : Nested (branchItems (finished ++ [⟨held, body, current⟩]) ++
          otherwiseItems none ++ [.closing]) _ := .conditional
        (List.append_ne_nil_of_right_ne_nil finished (List.cons_ne_nil _ _)) whole
        (fun _ none => nomatch none) (fun _ none => nomatch none) .nil
      rw [otherwiseItems, List.append_nil, Option.toList_none, List.append_nil, List.map_append] at closed
      rw [List.append_assoc]
      exact outside.extend closed
    | @last items body levels before current finished outside opened each nested =>
      obtain rfl := Option.some.inj advanced
      have closed : Nested (branchItems finished ++ otherwiseItems (some ⟨true, body, current⟩) ++
          [.closing]) [.conditional ((finished ++
            (some ⟨true, body, current⟩ : Option (Branch α)).toList).map Branch.part)] := by
        refine .conditional opened each ?_ ?_ .nil
        · intro branch same
          cases same
          rfl
        · intro branch same
          cases same
          exact nested
      rw [otherwiseItems, Option.toList_some, List.map_append] at closed
      rw [List.append_assoc]
      exact outside.extend closed

end Assembly

/-- An assembly that is complete has read well nested items. -/
theorem assembled_iff {items : List (Item α)} {blocks : List (Block α)} :
    Assembly.start.run items = some ⟨[], blocks⟩ ↔ Nested items blocks := by
  constructor
  · intro ran
    have reads : ∀ (rest before : List (Item α)) (assembly : Assembly α),
        Assembly.Open before assembly.levels assembly.current →
        assembly.run rest = some ⟨[], blocks⟩ → Assembly.Open (before ++ rest) [] blocks := by
      intro rest
      induction rest with
      | nil =>
        intro before assembly opened ran
        obtain rfl := Option.some.inj ran
        rwa [List.append_nil]
      | cons item rest follows =>
        intro before assembly opened ran
        obtain ⟨later, advanced, ran⟩ := Option.bind_eq_some_iff.1 ran
        rw [← List.singleton_append, ← List.append_assoc]
        exact follows _ later (opened.advance advanced) ran
    cases reads items [] .start (.outer .nil) ran with
    | outer nested => exact nested
  · exact fun nested => Assembly.run_nested nested .start

/-! ## What an assembly has selected -/

namespace Assembly

/-- The blocks as they would be if every open conditional ended here. -/
def closedBlocks : List (Level α) → List (Block α) → List (Block α)
  | [], current => current
  | level :: levels, current =>
      closedBlocks levels (level.before ++ [.conditional (level.finished ++ [(level.value, current)])])

/-- The innermost branch is one that is selected. -/
def activeIn : List (Level α) → Bool
  | [] => true
  | level :: levels => activeIn levels && !level.finished.any Prod.fst && level.value

def selection (assembly : Assembly α) : List α :=
  selected (closedBlocks assembly.levels assembly.current)

theorem selected_closed_append (levels : List (Level α)) (current more : List (Block α)) :
    selected (closedBlocks levels (current ++ more)) =
      selected (closedBlocks levels current) ++ if activeIn levels then selected more else [] := by
  induction levels generalizing current more with
  | nil => exact selected_append current more
  | cons level levels follows =>
    rw [closedBlocks, closedBlocks, follows, follows, selected_singleton, selected_singleton,
      Block.selected, Block.selected, firstSelected_last, firstSelected_last, selected_append, activeIn]
    cases activeIn levels with
    | false => simp
    | true =>
      cases level.finished.any Prod.fst with
      | true => simp
      | false =>
        cases level.value with
        | true => simp
        | false => simp

/-- A branch that ends with nothing in it selects nothing more. -/
theorem firstSelected_empty (finished : List (Bool × List (Block α))) (value : Bool) :
    firstSelected (finished ++ [(value, [])]) = firstSelected finished := by
  induction finished with
  | nil =>
    cases value with
    | true => exact (firstSelected.eq_2 _ _).trans selected.eq_1
    | false => exact firstSelected.eq_3 _ _
  | cons branch rest follows =>
    obtain ⟨held, inner⟩ := branch
    cases held with
    | true => rw [List.cons_append, firstSelected.eq_2, firstSelected.eq_2]
    | false => rw [List.cons_append, firstSelected.eq_3, firstSelected.eq_3, follows]

theorem selection_opened (levels : List (Level α)) (before : List (Block α))
    (finished : List (Bool × List (Block α))) (value last : Bool) :
    selection ⟨⟨before, finished, value, last⟩ :: levels, []⟩ =
      selected (closedBlocks levels (before ++ [.conditional finished])) := by
  show selected (closedBlocks levels _) = _
  rw [selected_closed_append, selected_closed_append, selected_singleton, selected_singleton,
    Block.selected, Block.selected, firstSelected_empty]

/-- Only a token of an active branch adds to what is selected. -/
theorem selection_advance {assembly later : Assembly α} {item : Item α}
    (advanced : assembly.advance item = some later) :
    later.selection = assembly.selection ++
      match item with
      | .code token => if activeIn assembly.levels then [token] else []
      | _ => [] := by
  obtain ⟨levels, current⟩ := assembly
  cases item with
  | code token =>
    obtain rfl := Option.some.inj advanced
    exact selected_closed_append levels current [.code token]
  | service =>
    obtain rfl := Option.some.inj advanced
    exact (List.append_nil _).symm
  | opening value =>
    obtain rfl := Option.some.inj advanced
    rw [selection_opened, selected_closed_append, selected_singleton, Block.selected,
      firstSelected.eq_1, ite_self]
    rfl
  | alternative value =>
    cases levels with
    | nil => cases advanced
    | cons level levels =>
      obtain ⟨-, same⟩ := Option.ite_none_left_eq_some.1 advanced
      obtain rfl := Option.some.inj same
      rw [selection_opened, List.append_nil]
      rfl
  | otherwise =>
    cases levels with
    | nil => cases advanced
    | cons level levels =>
      obtain ⟨-, same⟩ := Option.ite_none_left_eq_some.1 advanced
      obtain rfl := Option.some.inj same
      rw [selection_opened, List.append_nil]
      rfl
  | closing =>
    cases levels with
    | nil => cases advanced
    | cons level levels =>
      obtain rfl := Option.some.inj advanced
      exact (List.append_nil _).symm

end Assembly

end OnecRuntime.Library
