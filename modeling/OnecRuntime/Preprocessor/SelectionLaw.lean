import OnecRuntime.Library.Branches
import OnecRuntime.Preprocessor.ExpressionLaw
import OnecRuntime.Preprocessor.Selection

/-!
# What the server sees of a source

A source is lines of code and directive lines. The directives stand for the items of nested
conditionals, and the blocks that these stand for say which tokens the server sees. The loop with
its frames returns these tokens, where a directive line is taken to end at a line feed.
-/

namespace OnecRuntime.Preprocessor

open OnecRuntime.Library
open OnecRuntime.Bsl
open OnecRuntime.SourceMaps (Text)

/-! ## Lines -/

inductive Line where
  | code (token : Token)
  | directive (sharp : Token) (rest : List Token)

/-- No end of a line stands between a directive's first token and the other one. -/
def sameLine (ends : Char → Bool) (source : Text) (sharp other : Token) : Bool :=
  ((source.take other.start).drop sharp.stop).all fun char => !ends char

/-- The tokens of code one by one, and the directives with the tokens of their lines. -/
def linesFrom (ends : Char → Bool) (source : Text) : Nat → List Token → List Line
  | 0, _ => []
  | _ + 1, [] => []
  | fuel + 1, token :: rest =>
      if token.type ≠ sign '#' then .code token :: linesFrom ends source fuel rest
      else .directive token (rest.takeWhile (sameLine ends source token)) ::
        linesFrom ends source fuel (rest.dropWhile (sameLine ends source token))

def linesOf (ends : Char → Bool) (source : Text) (tokens : List Token) : List Line :=
  linesFrom ends source tokens.length tokens

/-! ## The grammar of directives -/

/-- The tokens behind `#` spell a directive that stands for the item. -/
inductive Directive (functions : TextFunctions) : List Token → Item Token → Prop
  | region {kind name : Token} (named : kind.type = word "ОБЛАСТЬ")
      (region : name.type = .identifier) : Directive functions [kind, name] .service
  | use {kind name : Token} (named : kind.type = word "ИСПОЛЬЗОВАТЬ")
      (used : name.type = .identifier ∨ name.type = .string) : Directive functions [kind, name] .service
  | plain {kind : Token} (named : kind.type = word "КОНЕЦОБЛАСТИ" ∨ kind.type = word "NATIVE" ∨
      kind.type = word "STACK") : Directive functions [kind] .service
  | opening {kind ends : Token} {tokens : List Token} {value : Bool}
      (named : kind.type = word "ЕСЛИ") (ended : ends.type = word "ТОГДА")
      (condition : Condition functions tokens value) :
      Directive functions (kind :: tokens ++ [ends]) (.opening value)
  | alternative {kind ends : Token} {tokens : List Token} {value : Bool}
      (named : kind.type = word "ИНАЧЕЕСЛИ") (ended : ends.type = word "ТОГДА")
      (condition : Condition functions tokens value) :
      Directive functions (kind :: tokens ++ [ends]) (.alternative value)
  | otherwise {kind : Token} (named : kind.type = word "ИНАЧЕ") : Directive functions [kind] .otherwise
  | closing {kind : Token} (named : kind.type = word "КОНЕЦЕСЛИ") : Directive functions [kind] .closing

/-- What a line stands for. A directive starts its line. -/
inductive Means (functions : TextFunctions) (source : Text) : Line → Item Token → Prop
  | code (token : Token) : Means functions source (.code token) (.code token)
  | directive {sharp : Token} {rest : List Token} {item : Item Token}
      (starts : startsLine source sharp = true) (spelled : Directive functions rest item) :
      Means functions source (.directive sharp rest) item

/-- The lines are of their grammar and well nested, and these are the tokens of the branches that
are selected. -/
def Selects (functions : TextFunctions) (ends : Char → Bool) (source : Text) (tokens : List Token)
    (result : List Token) : Prop :=
  ∃ items blocks, List.Forall₂ (Means functions source) (linesOf ends source tokens) items ∧
    Nested items blocks ∧ result = selected blocks

/-! ## The loop over lines -/

section Reading

variable (functions : TextFunctions) (source : Text)

def State.take (state : State) (token : Token) : State :=
  { state with selected := if state.active then state.selected ++ [token] else state.selected }

def readLine (state : State) : Line → Except WorkerPreprocessorError State
  | .code token => .ok (state.take token)
  | .directive sharp rest =>
      if startsLine source sharp = false then
        .error (errorAt sharp "preprocessor directive must start its line" "invalid_directive")
      else directive functions state sharp rest

variable {functions source}

theorem readLine_directive (state : State) (sharp : Token) (rest : List Token) :
    readLine functions source state (.directive sharp rest) =
      if startsLine source sharp = false then
        .error (errorAt sharp "preprocessor directive must start its line" "invalid_directive")
      else directive functions state sharp rest := rfl

def isLineFeed (char : Char) : Bool := char = '\n'

variable {sharp : Token}

/-- A directive goes on as far as its line, up to a line feed. -/
theorem sameLine_lineFeed {other : Token} (stands : other.Stands source) :
    sameLine isLineFeed source sharp other = decide (other.start < directiveEnd source sharp) := by
  have inside := stands.inside
  have nonempty := stands.nonempty
  unfold sameLine directiveEnd
  rw [List.drop_take]
  cases found : (source.drop sharp.stop).findIdx? (· = '\n') with
  | none =>
    have none_ends := List.findIdx?_eq_none_iff.1 found
    rw [decide_eq_true (show other.start < source.length by omega), List.all_eq_true]
    intro char among
    simpa [isLineFeed] using none_ends char (List.mem_of_mem_take among)
  | some newline =>
    obtain ⟨short, ends, before⟩ := List.findIdx?_eq_some_iff_getElem.1 found
    dsimp only
    by_cases less : other.start < sharp.stop + newline + 1
    · rw [decide_eq_true less, List.all_eq_true]
      intro char among
      obtain ⟨place, place_lt, rfl⟩ := List.getElem_of_mem among
      rw [List.length_take] at place_lt
      rw [List.getElem_take]
      simpa [isLineFeed] using before place (by omega)
    · rw [decide_eq_false less, List.all_eq_false]
      refine ⟨(source.drop sharp.stop)[newline], ?_, by simpa [isLineFeed] using ends⟩
      rw [List.mem_take_iff_getElem]
      exact ⟨newline, by omega, rfl⟩

theorem takeWhile_same {α : Type} {first second : α → Bool} {items : List α}
    (same : ∀ item ∈ items, first item = second item) :
    items.takeWhile first = items.takeWhile second ∧ items.dropWhile first = items.dropWhile second := by
  induction items with
  | nil => exact ⟨rfl, rfl⟩
  | cons item rest follows =>
    obtain ⟨here, there⟩ := List.forall_mem_cons.1 same
    obtain ⟨taken, dropped⟩ := follows there
    rw [List.takeWhile_cons, List.takeWhile_cons, List.dropWhile_cons, List.dropWhile_cons, here]
    cases second item with
    | true => exact ⟨congrArg _ taken, dropped⟩
    | false => exact ⟨rfl, rfl⟩

theorem selectFrom_eq {fuel : Nat} {tokens : List Token} (stand : ∀ token ∈ tokens, token.Stands source)
    (state : State) : selectFrom functions source fuel state tokens =
      (linesFrom isLineFeed source fuel tokens).foldlM (readLine functions source) state := by
  induction fuel generalizing tokens state with
  | zero => rfl
  | succ fuel follows =>
    cases tokens with
    | nil => rfl
    | cons token rest =>
      obtain ⟨first, others⟩ := List.forall_mem_cons.1 stand
      unfold selectFrom linesFrom
      by_cases code : token.type = sign '#'
      · rw [if_neg (not_not.2 code), if_neg (not_not.2 code), List.foldlM_cons]
        have same : ∀ other ∈ rest, sameLine isLineFeed source token other =
            decide (other.start < directiveEnd source token) :=
          fun other among => sameLine_lineFeed (others other among)
        rw [(takeWhile_same same).1, (takeWhile_same same).2, readLine_directive]
        by_cases starts : startsLine source token = false
        · rw [if_pos starts, if_pos starts]
          rfl
        · rw [if_neg starts, if_neg starts]
          refine congrArg (_ >>= ·) (funext fun later => follows (fun other among => ?_) later)
          exact others other ((List.dropWhile_sublist _).subset among)
      · rw [if_pos code, if_pos code, List.foldlM_cons]
        exact follows others _

/-! ## The loop and the assembly -/

/-- Each frame tells what there is about its conditional. -/
def FramesTrack : List ConditionalFrame → List (Level Token) → Prop
  | [], [] => True
  | frame :: frames, level :: levels =>
      frame.parentActive = Assembly.activeIn levels ∧
      frame.anyTaken = (level.finished.any Prod.fst || level.value) ∧
      frame.elseSeen = level.last ∧ FramesTrack frames levels
  | _, _ => False

/-- There are as many levels as frames. -/
theorem FramesTrack.paired {stack : List ConditionalFrame} {open_ : List (Level Token)}
    (track : FramesTrack stack open_) : (stack = [] ∧ open_ = []) ∨
      ∃ frame frames level levels, stack = frame :: frames ∧ open_ = level :: levels := by
  cases stack with
  | nil =>
      cases open_ with
      | nil => exact .inl ⟨rfl, rfl⟩
      | cons level levels => exact track.elim
  | cons frame frames =>
      cases open_ with
      | nil => exact track.elim
      | cons level levels => exact .inr ⟨frame, frames, level, levels, rfl, rfl⟩

structure Tracks (state : State) (assembly : Assembly Token) : Prop where
  selected : state.selected = assembly.selection
  active : state.active = Assembly.activeIn assembly.levels
  frames : FramesTrack state.stack assembly.levels

variable {operands : List Token}

theorem conditionOf_eq_ok {invalid : String} {value : Bool} :
    conditionOf functions sharp operands invalid = .ok value ↔ ∃ tokens ends,
      operands = tokens ++ [ends] ∧ ends.type = word "ТОГДА" ∧ Condition functions tokens value := by
  unfold conditionOf conditionTokens
  constructor
  · intro done
    split at done
    · cases done
    next tokens found =>
    rw [Option.ite_none_right_eq_some, Option.some.injEq] at found
    obtain ⟨⟨long, last⟩, rfl⟩ := found
    obtain ⟨ends, held, typed⟩ := Option.map_eq_some_iff.1 last
    refine ⟨operands.dropLast, ends, ?_, typed, parseExpression_eq_ok.1 done⟩
    exact (List.dropLast_append_getLast? ends held).symm
  · rintro ⟨tokens, ends, rfl, typed, condition⟩
    have long : 2 ≤ (tokens ++ [ends]).length := by
      have some_tokens := List.length_pos_iff.2 condition.ne_nil
      rw [List.length_append, List.length_singleton]
      omega
    rw [if_pos ⟨long, by simp [typed]⟩, List.dropLast_concat]
    exact parseExpression_eq_ok.2 condition

theorem serviceValid_iff {kind : Token} :
    serviceValid kind.type operands = true ↔ Directive functions (kind :: operands) .service := by
  constructor
  · intro valid
    match operands, valid with
    | [], valid => exact .plain (of_decide_eq_true valid)
    | [name], valid =>
      rcases of_decide_eq_true valid with ⟨named, region⟩ | ⟨named, used⟩
      · exact .region named region
      · exact .use named used
  · intro spelled
    cases spelled with
    | region named region => exact decide_eq_true (.inl ⟨named, region⟩)
    | use named used => exact decide_eq_true (.inr ⟨named, used⟩)
    | plain named => exact decide_eq_true named

/-- What a directive does that stands for the item. -/
def State.move (state : State) (sharp : Token) : Item Token → Option State
  | .code token => some (state.take token)
  | .service => some state
  | .opening value => some ⟨state.selected,
      ⟨sharp, state.active, value, state.active && value, false⟩ :: state.stack, state.active && value⟩
  | .alternative value =>
      match state.stack with
      | [] => none
      | frame :: rest =>
          if frame.elseSeen then none
          else
            let active := frame.parentActive && !frame.anyTaken && value
            some ⟨state.selected, { frame with
              currentActive := active, anyTaken := frame.anyTaken || value } :: rest, active⟩
  | .otherwise =>
      match state.stack with
      | [] => none
      | frame :: rest =>
          if frame.elseSeen then none
          else
            let active := frame.parentActive && !frame.anyTaken
            some ⟨state.selected, { frame with
              elseSeen := true, currentActive := active, anyTaken := true } :: rest, active⟩
  | .closing =>
      match state.stack with
      | [] => none
      | frame :: rest => some ⟨state.selected, rest, frame.parentActive⟩

variable {state later : State}

theorem openIf_eq_ok :
    openIf functions state sharp operands = .ok later ↔ ∃ tokens ends value,
      operands = tokens ++ [ends] ∧ ends.type = word "ТОГДА" ∧ Condition functions tokens value ∧
        state.move sharp (.opening value) = some later := by
  unfold openIf
  rw [bind_eq_ok]
  constructor
  · rintro ⟨value, held, made⟩
    obtain ⟨tokens, ends, same, typed, condition⟩ := conditionOf_eq_ok.1 held
    exact ⟨tokens, ends, value, same, typed, condition, congrArg some (Except.ok.inj made)⟩
  · rintro ⟨tokens, ends, value, same, typed, condition, made⟩
    exact ⟨value, conditionOf_eq_ok.2 ⟨tokens, ends, same, typed, condition⟩,
      congrArg Except.ok (Option.some.inj made)⟩

theorem elseIf_eq_ok :
    elseIf functions state sharp operands = .ok later ↔ ∃ tokens ends value,
      operands = tokens ++ [ends] ∧ ends.type = word "ТОГДА" ∧ Condition functions tokens value ∧
        state.move sharp (.alternative value) = some later := by
  obtain ⟨chosen, stack, active⟩ := state
  cases stack with
  | nil => simp [elseIf, State.move]
  | cons frame rest =>
    by_cases seen : frame.elseSeen = true
    · simp [elseIf, State.move, seen]
    · unfold elseIf State.move
      dsimp only
      rw [if_neg seen, bind_eq_ok]
      simp only [if_neg seen]
      constructor
      · rintro ⟨value, held, made⟩
        obtain ⟨tokens, ends, same, typed, condition⟩ := conditionOf_eq_ok.1 held
        exact ⟨tokens, ends, value, same, typed, condition, congrArg some (Except.ok.inj made)⟩
      · rintro ⟨tokens, ends, value, same, typed, condition, made⟩
        exact ⟨value, conditionOf_eq_ok.2 ⟨tokens, ends, same, typed, condition⟩,
          congrArg Except.ok (Option.some.inj made)⟩

theorem otherwise_eq_ok :
    otherwise state sharp operands = .ok later ↔
      operands = [] ∧ state.move sharp .otherwise = some later := by
  obtain ⟨chosen, stack, active⟩ := state
  cases stack with
  | nil => simp [otherwise, State.move]
  | cons frame rest =>
    by_cases seen : frame.elseSeen = true
    · simp [otherwise, State.move, seen]
    · by_cases nothing : operands = []
      · simp [otherwise, State.move, seen, nothing, pure, Except.pure]
      · simp [otherwise, nothing]

theorem endIf_eq_ok :
    endIf state sharp operands = .ok later ↔
      operands = [] ∧ state.move sharp .closing = some later := by
  obtain ⟨chosen, stack, active⟩ := state
  cases stack with
  | nil => simp [endIf, State.move]
  | cons frame rest =>
    by_cases nothing : operands = []
    · simp [endIf, State.move, nothing, pure, Except.pure]
    · simp [endIf, nothing]

theorem directive_cons (state : State) (sharp kind : Token) (operands : List Token) :
    directive functions state sharp (kind :: operands) =
      if kind.type ∈ serviceDirectives then
        if serviceValid kind.type operands then pure state
        else .error (errorAt (operands.getLast?.getD kind)
          s!"invalid #{String.ofList kind.text} directive" "invalid_directive")
      else if kind.type = word "ЕСЛИ" then openIf functions state sharp operands
      else if kind.type = word "ИНАЧЕЕСЛИ" then elseIf functions state sharp operands
      else if kind.type = word "ИНАЧЕ" then otherwise state sharp operands
      else if kind.type = word "КОНЕЦЕСЛИ" then endIf state sharp operands
      else .error (errorAt kind "unsupported preprocessor directive" "invalid_directive") := rfl

theorem directive_service {kind : Token}
    (among : kind.type ∈ serviceDirectives) :
    directive functions state sharp (kind :: operands) = .ok later ↔
      serviceValid kind.type operands = true ∧ state = later := by
  rw [directive_cons, if_pos among]
  by_cases valid : serviceValid kind.type operands = true
  · rw [if_pos valid]
    exact ⟨fun done => ⟨valid, Except.ok.inj done⟩, fun found => congrArg _ found.2⟩
  · rw [if_neg valid]
    exact ⟨nofun, fun found => absurd found.1 valid⟩

/-- A directive goes through where it is of the grammar and its item has its place. -/
theorem directive_eq_ok {rest : List Token} :
    directive functions state sharp rest = .ok later ↔
      ∃ item, Directive functions rest item ∧ state.move sharp item = some later := by
  cases rest with
  | nil =>
    constructor
    · intro done
      cases done
    · rintro ⟨item, spelled, -⟩
      cases spelled
  | cons kind operands =>
    constructor
    · intro done
      by_cases service : kind.type ∈ serviceDirectives
      · obtain ⟨valid, rfl⟩ := (directive_service service).1 done
        exact ⟨.service, serviceValid_iff.1 valid, rfl⟩
      rw [directive_cons, if_neg service] at done
      by_cases opens : kind.type = word "ЕСЛИ"
      · rw [if_pos opens] at done
        obtain ⟨tokens, ends, value, rfl, typed, condition, made⟩ := openIf_eq_ok.1 done
        exact ⟨_, .opening opens typed condition, made⟩
      rw [if_neg opens] at done
      by_cases another : kind.type = word "ИНАЧЕЕСЛИ"
      · rw [if_pos another] at done
        obtain ⟨tokens, ends, value, rfl, typed, condition, made⟩ := elseIf_eq_ok.1 done
        exact ⟨_, .alternative another typed condition, made⟩
      rw [if_neg another] at done
      by_cases last : kind.type = word "ИНАЧЕ"
      · rw [if_pos last] at done
        obtain ⟨rfl, made⟩ := otherwise_eq_ok.1 done
        exact ⟨_, .otherwise last, made⟩
      rw [if_neg last] at done
      by_cases closes : kind.type = word "КОНЕЦЕСЛИ"
      · rw [if_pos closes] at done
        obtain ⟨rfl, made⟩ := endIf_eq_ok.1 done
        exact ⟨_, .closing closes, made⟩
      · rw [if_neg closes] at done
        cases done
    · rintro ⟨item, spelled, made⟩
      cases spelled with
      | region named region =>
        refine (directive_service (named ▸ by decide)).2 ⟨?_, Option.some.inj made⟩
        exact (@serviceValid_iff functions _ _).2 (.region named region)
      | use named used =>
        refine (directive_service (named ▸ by decide)).2 ⟨?_, Option.some.inj made⟩
        exact (@serviceValid_iff functions _ _).2 (.use named used)
      | plain named =>
        refine (directive_service ?_).2 ⟨?_, Option.some.inj made⟩
        · rcases named with named | named | named <;> exact named ▸ by decide
        · exact (@serviceValid_iff functions _ _).2 (.plain named)
      | opening named ended condition =>
        rw [directive_cons, if_neg (named ▸ by decide), if_pos named]
        exact openIf_eq_ok.2 ⟨_, _, _, rfl, ended, condition, made⟩
      | alternative named ended condition =>
        rw [directive_cons, if_neg (named ▸ by decide),
          if_neg (named ▸ by decide), if_pos named]
        exact elseIf_eq_ok.2 ⟨_, _, _, rfl, ended, condition, made⟩
      | otherwise named =>
        rw [directive_cons, if_neg (named ▸ by decide), if_neg (named ▸ by decide),
          if_neg (named ▸ by decide), if_pos named]
        exact otherwise_eq_ok.2 ⟨rfl, made⟩
      | closing named =>
        rw [directive_cons, if_neg (named ▸ by decide), if_neg (named ▸ by decide),
          if_neg (named ▸ by decide), if_neg (named ▸ by decide), if_pos named]
        exact endIf_eq_ok.2 ⟨rfl, made⟩

variable {assembly : Assembly Token}

/-- What is selected where the item is not code. -/
theorem Tracks.stays {later : Assembly Token}
    (tracks : Tracks state assembly) (item : Item Token) (advanced : assembly.advance item = some later)
    (no_code : ∀ token, item ≠ .code token) : state.selected = later.selection := by
  rw [Assembly.selection_advance advanced, tracks.selected]
  cases item with
  | code token => exact absurd rfl (no_code token)
  | _ => exact (List.append_nil _).symm

/-- A conditional that goes on with another branch. -/
theorem Tracks.next_branch {frame next : ConditionalFrame}
    {frames : List ConditionalFrame} {level : Level Token} {levels : List (Level Token)}
    {current : List (Block Token)} (tracks : Tracks state ⟨level :: levels, current⟩)
    (stacked : state.stack = frame :: frames) (item : Item Token) {value last : Bool}
    (advanced : Assembly.advance ⟨level :: levels, current⟩ item =
      some ⟨⟨level.before, level.finished ++ [(level.value, current)], value, last⟩ :: levels, []⟩)
    (no_code : ∀ token, item ≠ .code token)
    (parent : next.parentActive = frame.parentActive)
    (taken : next.anyTaken = (frame.anyTaken || value)) (seen : next.elseSeen = last) :
    Tracks ⟨state.selected, next :: frames, frame.parentActive && !frame.anyTaken && value⟩
      ⟨⟨level.before, level.finished ++ [(level.value, current)], value, last⟩ :: levels, []⟩ := by
  have framed := tracks.frames
  rw [stacked] at framed
  obtain ⟨parents, held, elses, rest⟩ := framed
  have any : (level.finished ++ [(level.value, current)]).any Prod.fst = frame.anyTaken := by
    rw [held, List.any_append, List.any_cons, List.any_nil, Bool.or_false]
  constructor
  · exact tracks.stays item advanced no_code
  · show _ = Assembly.activeIn (_ :: levels)
    rw [Assembly.activeIn, any, parents]
  · exact ⟨parent.trans parents, by rw [taken, any], seen, rest⟩

/-- A directive does to the frames what its item does to the assembly. -/
theorem Tracks.move (tracks : Tracks state assembly)
    (sharp : Token) (item : Item Token) :
    Option.Rel Tracks (state.move sharp item) (assembly.advance item) := by
  obtain ⟨levels, current⟩ := assembly
  obtain ⟨chosen, stack, active⟩ := state
  cases item with
  | code token =>
    have advanced : Assembly.advance ⟨levels, current⟩ (.code token) = some _ := rfl
    refine .some ⟨?_, tracks.active, tracks.frames⟩
    rw [Assembly.selection_advance advanced, ← tracks.selected]
    have same : active = Assembly.activeIn levels := tracks.active
    show (if active then _ else _) = _ ++ if Assembly.activeIn levels then _ else _
    rw [same]
    cases Assembly.activeIn levels with
    | true => rfl
    | false => exact (List.append_nil _).symm
  | service => exact .some tracks
  | opening value =>
    refine .some ⟨tracks.stays (.opening value) rfl (fun _ same => by cases same), ?_,
      ⟨tracks.active, rfl, rfl, tracks.frames⟩⟩
    have same : active = Assembly.activeIn levels := tracks.active
    show (active && value) = Assembly.activeIn (_ :: levels)
    rw [same, Assembly.activeIn, List.any_nil, Bool.not_false, Bool.and_true]
  | alternative value =>
    obtain ⟨rfl, rfl⟩ | ⟨frame, frames, level, levels, rfl, rfl⟩ := tracks.frames.paired
    · exact .none
    · have seen : frame.elseSeen = level.last := tracks.frames.2.2.1
      show Option.Rel _ (if frame.elseSeen then _ else _) (if level.last then _ else _)
      by_cases last : level.last = true
      · rw [if_pos last, if_pos (seen.trans last)]
        exact .none
      · rw [if_neg last, if_neg (seen ▸ last)]
        exact .some (tracks.next_branch rfl (.alternative value) (if_neg last)
          (fun _ same => by cases same) rfl rfl (seen.trans (Bool.not_eq_true _ ▸ last)))
  | otherwise =>
    obtain ⟨rfl, rfl⟩ | ⟨frame, frames, level, levels, rfl, rfl⟩ := tracks.frames.paired
    · exact .none
    · have seen : frame.elseSeen = level.last := tracks.frames.2.2.1
      show Option.Rel _ (if frame.elseSeen then _ else _) (if level.last then _ else _)
      by_cases last : level.last = true
      · rw [if_pos last, if_pos (seen.trans last)]
        exact .none
      · rw [if_neg last, if_neg (seen ▸ last)]
        have goes : Tracks ⟨chosen, ⟨frame.opening, frame.parentActive, true,
            frame.parentActive && !frame.anyTaken, true⟩ :: frames, _⟩ _ :=
          tracks.next_branch rfl .otherwise (if_neg last) (fun _ same => by cases same) rfl
            (Bool.or_true _).symm rfl
        rw [Bool.and_true] at goes
        exact .some goes
  | closing =>
    obtain ⟨rfl, rfl⟩ | ⟨frame, frames, level, levels, rfl, rfl⟩ := tracks.frames.paired
    · exact .none
    · obtain ⟨parents, -, -, rest⟩ := tracks.frames
      exact .some ⟨tracks.stays .closing rfl (fun _ same => by cases same), parents, rest⟩

/-- The token that a line begins with. -/
def Line.first : Line → Token
  | .code token => token
  | .directive sharp _ => sharp

/-- A line goes through where it stands for an item that has its place. -/
theorem readLine_eq_ok {line : Line} :
    readLine functions source state line = .ok later ↔
      ∃ item, Means functions source line item ∧ state.move line.first item = some later := by
  cases line with
  | code token =>
    constructor
    · intro done
      exact ⟨_, .code token, congrArg some (Except.ok.inj done)⟩
    · rintro ⟨item, means, made⟩
      cases means
      exact congrArg Except.ok (Option.some.inj made)
  | directive sharp rest =>
    rw [readLine_directive]
    by_cases starts : startsLine source sharp = false
    · rw [if_pos starts]
      constructor
      · intro done
        cases done
      · rintro ⟨item, means, -⟩
        cases means with
        | directive begins => exact absurd (begins.symm.trans starts) nofun
    · rw [if_neg starts, directive_eq_ok]
      constructor
      · rintro ⟨item, spelled, made⟩
        exact ⟨item, .directive (Bool.not_eq_false _ ▸ starts) spelled, made⟩
      · rintro ⟨item, means, made⟩
        cases means with
        | directive _ spelled => exact ⟨item, spelled, made⟩

/-- The loop over the lines goes as the assembly does over their items. -/
theorem foldlM_readLine {lines : List Line} {final : State}
    (tracks : Tracks state assembly)
    (done : lines.foldlM (readLine functions source) state = .ok final) :
    ∃ items later, List.Forall₂ (Means functions source) lines items ∧
      assembly.run items = some later ∧ Tracks final later := by
  induction lines generalizing state assembly with
  | nil =>
    cases done
    exact ⟨[], assembly, .nil, rfl, tracks⟩
  | cons line rest follows =>
    rw [List.foldlM_cons] at done
    obtain ⟨next, read, ended⟩ := bind_eq_ok.1 done
    obtain ⟨item, means, made⟩ := readLine_eq_ok.1 read
    have goes := tracks.move line.first item
    rw [made] at goes
    cases advanced : assembly.advance item with
    | none =>
      rw [advanced] at goes
      cases goes
    | some reached =>
      rw [advanced] at goes
      cases goes with
      | some goes =>
        obtain ⟨items, later, mean, ran, ends⟩ := follows goes ended
        refine ⟨item :: items, later, .cons means mean, ?_, ends⟩
        rw [Assembly.run, advanced]
        exact ran

theorem foldlM_readLine_of_run {lines : List Line} {items : List (Item Token)}
    {later : Assembly Token} (tracks : Tracks state assembly)
    (mean : List.Forall₂ (Means functions source) lines items)
    (ran : assembly.run items = some later) :
    ∃ final, lines.foldlM (readLine functions source) state = .ok final ∧ Tracks final later := by
  induction mean generalizing state assembly with
  | nil =>
    obtain rfl := Option.some.inj ran
    exact ⟨state, rfl, tracks⟩
  | @cons line item rest items means _ follows =>
    obtain ⟨reached, advanced, ran⟩ := Option.bind_eq_some_iff.1 ran
    have goes := tracks.move line.first item
    rw [advanced] at goes
    cases made : state.move line.first item with
    | none =>
      rw [made] at goes
      cases goes
    | some next =>
      rw [made] at goes
      cases goes with
      | some goes =>
        obtain ⟨final, done, ends⟩ := follows goes ran
        refine ⟨final, ?_, ends⟩
        rw [List.foldlM_cons, readLine_eq_ok.2 ⟨item, means, made⟩]
        exact done

theorem Tracks.closed_iff (tracks : Tracks state assembly) : state.stack = [] ↔ assembly.levels = [] := by
  obtain ⟨levels, current⟩ := assembly
  obtain ⟨chosen, stack, active⟩ := state
  match stack, levels, tracks with
  | [], [], _ => exact ⟨fun _ => rfl, fun _ => rfl⟩
  | [], _ :: _, tracks => exact tracks.frames.elim
  | _ :: _, [], tracks => exact tracks.frames.elim
  | _ :: _, _ :: _, _ => exact ⟨nofun, nofun⟩

theorem Tracks.start : Tracks .start .start := ⟨rfl, rfl, trivial⟩

/-- The tokens that are returned are those that the directives select, where a directive line goes
on to a line feed. -/
theorem selectServerEffectiveTokens_eq_ok {tokens result : List Token}
    (lexed : tokenize functions source = .ok tokens) :
    selectServerEffectiveTokens functions source tokens = .ok result ↔
      Selects functions isLineFeed source tokens result := by
  unfold selectServerEffectiveTokens
  rw [bind_eq_ok, selectFrom_eq fun token among => tokenize_stands lexed among]
  constructor
  · rintro ⟨final, done, ended⟩
    obtain ⟨items, later, mean, ran, tracks⟩ := foldlM_readLine Tracks.start done
    obtain ⟨levels, blocks⟩ := later
    cases stacked : final.stack with
    | cons frame frames =>
      rw [stacked] at ended
      cases ended
    | nil =>
      rw [stacked] at ended
      cases ended
      obtain rfl := tracks.closed_iff.1 stacked
      exact ⟨items, blocks, mean, assembled_iff.1 ran, tracks.selected⟩
  · rintro ⟨items, blocks, mean, nested, rfl⟩
    obtain ⟨final, done, tracks⟩ :=
      foldlM_readLine_of_run Tracks.start mean (assembled_iff.2 nested)
    refine ⟨final, done, ?_⟩
    rw [tracks.closed_iff.2 rfl]
    exact congrArg Except.ok tracks.selected

end Reading

end OnecRuntime.Preprocessor
