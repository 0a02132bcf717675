import Mathlib.Data.List.TakeWhile
import OnecRuntime.Preprocessor.SelectionLaw

/-!
# The ends of directive lines

A directive may start behind a carriage return or a line feed, but it goes on to a line feed. A
line that a carriage return alone ends gives its directive the tokens of the next one, and with
them the directive is not of its grammar: the source is refused.
-/

namespace OnecRuntime.Preprocessor

open OnecRuntime.Library
open OnecRuntime.Bsl
open OnecRuntime.SourceMaps (Text)

variable {functions : TextFunctions} {source : Text}

/-- How many tokens follow the name of a directive, where the last of them is no keyword. -/
def operandCount (kind : TokenType) : Option Nat :=
  if kind = word "ЕСЛИ" ∨ kind = word "ИНАЧЕЕСЛИ" then none
  else if kind = word "ОБЛАСТЬ" ∨ kind = word "ИСПОЛЬЗОВАТЬ" then some 1
  else some 0

/-- The name of a directive tells how many tokens follow, or which is the last of them. -/
theorem Directive.extent {tokens : List Token} {item : Item Token}
    (spelled : Directive functions tokens item) : ∃ kind operands, tokens = kind :: operands ∧
      (operandCount kind.type = some operands.length ∨
        operandCount kind.type = none ∧ ∃ inner ends, operands = inner ++ [ends] ∧
          ends.type = word "ТОГДА" ∧ ∀ token ∈ inner, token.type ≠ word "ТОГДА") := by
  cases spelled with
  | region named => exact ⟨_, _, rfl, .inl (congrArg operandCount named)⟩
  | use named => exact ⟨_, _, rfl, .inl (congrArg operandCount named)⟩
  | plain named =>
    rcases named with named | named | named
    · exact ⟨_, _, rfl, .inl (congrArg operandCount named)⟩
    · exact ⟨_, _, rfl, .inl (congrArg operandCount named)⟩
    · exact ⟨_, _, rfl, .inl (congrArg operandCount named)⟩
  | opening named ended condition =>
    exact ⟨_, _, rfl, .inr ⟨congrArg operandCount named, _, _, rfl, ended, condition.no_then⟩⟩
  | alternative named ended condition =>
    exact ⟨_, _, rfl, .inr ⟨congrArg operandCount named, _, _, rfl, ended, condition.no_then⟩⟩
  | otherwise named => exact ⟨_, _, rfl, .inl (congrArg operandCount named)⟩
  | closing named => exact ⟨_, _, rfl, .inl (congrArg operandCount named)⟩

/-- A directive with further tokens behind it is no directive. -/
theorem Directive.no_more {tokens more : List Token} {item other : Item Token}
    (spelled : Directive functions tokens item)
    (further : Directive functions (tokens ++ more) other) : more = [] := by
  obtain ⟨kind, operands, rfl, extent⟩ := spelled.extent
  obtain ⟨same_kind, wide, same, wider⟩ := further.extent
  rw [List.cons_append] at same
  obtain ⟨rfl, rfl⟩ := List.cons.inj same
  rcases extent with counted | ⟨open_ended, inner, ends, rfl, ended, -⟩
  · rcases wider with long | ⟨open_ended, -⟩
    · have lengths := Option.some.inj (counted.symm.trans long)
      rw [List.length_append] at lengths
      exact List.eq_nil_of_length_eq_zero (by omega)
    · exact absurd (counted.symm.trans open_ended) nofun
  · rcases wider with long | ⟨-, others, last, joined, -, before⟩
    · exact absurd (open_ended.symm.trans long) nofun
    · rcases List.eq_nil_or_concat more with nothing | ⟨front, final, rfl⟩
      · exact nothing
      · rw [List.concat_eq_append, ← List.append_assoc] at joined
        obtain ⟨rfl, -⟩ := List.append_inj' joined rfl
        exact absurd ended (before ends (by simp))

/-- Either of the two characters ends a line, as where the start of a directive is told. -/
def isLineEnd (char : Char) : Bool := char = '\n' ∨ char = '\r'

theorem sameLine_weaker {sharp other : Token} (same : sameLine isLineEnd source sharp other = true) :
    sameLine isLineFeed source sharp other = true := by
  refine List.all_eq_true.2 fun char among => ?_
  have either := List.all_eq_true.1 same char among
  simp only [isLineEnd, isLineFeed, Bool.not_eq_true', decide_eq_false_iff_not, not_or] at either ⊢
  exact either.1

/-- Up to the line feed stands what stands up to the first end, and what follows it. -/
theorem lineFeed_extent (source : Text) (sharp : Token) (rest : List Token) :
    rest.takeWhile (sameLine isLineFeed source sharp) =
        rest.takeWhile (sameLine isLineEnd source sharp) ++
          (rest.dropWhile (sameLine isLineEnd source sharp)).takeWhile
            (sameLine isLineFeed source sharp) ∧
      rest.dropWhile (sameLine isLineFeed source sharp) =
        (rest.dropWhile (sameLine isLineEnd source sharp)).dropWhile
          (sameLine isLineFeed source sharp) := by
  have inside : ∀ other ∈ rest.takeWhile (sameLine isLineEnd source sharp),
      sameLine isLineFeed source sharp other = true :=
    fun other among => sameLine_weaker (List.mem_takeWhile_imp among)
  constructor
  · rw [← List.takeWhile_append_of_pos inside, List.takeWhile_append_dropWhile]
  · refine Eq.trans ?_ (List.dropWhile_append_of_pos inside)
    rw [List.takeWhile_append_dropWhile]

/-- The two readings of the ends of directive lines do not differ on a source whose directives are
of the grammar in both. -/
theorem lines_agree {fuel : Nat} {tokens : List Token} {items others : List (Item Token)}
    (fed : List.Forall₂ (Means functions source) (linesFrom isLineFeed source fuel tokens) items)
    (ended : List.Forall₂ (Means functions source) (linesFrom isLineEnd source fuel tokens) others) :
    linesFrom isLineFeed source fuel tokens = linesFrom isLineEnd source fuel tokens := by
  induction fuel generalizing tokens items others with
  | zero => rfl
  | succ fuel follows =>
    cases tokens with
    | nil => rfl
    | cons token rest =>
      rw [linesFrom] at fed ended
      rw [linesFrom, linesFrom]
      by_cases code : token.type = sign '#'
      · rw [if_neg (not_not.2 code)] at fed ended
        rw [if_neg (not_not.2 code), if_neg (not_not.2 code)]
        obtain ⟨longer, left⟩ := lineFeed_extent source token rest
        rw [longer, left] at fed
        rw [longer, left]
        cases fed with
        | cons fed_line fed_rest =>
        cases ended with
        | cons ended_line ended_rest =>
        cases fed_line with
        | directive _ further =>
        cases ended_line with
        | directive _ spelled =>
        have nothing := spelled.no_more further
        have behind := @List.takeWhile_append_dropWhile _ (sameLine isLineFeed source token)
          (rest.dropWhile (sameLine isLineEnd source token))
        rw [nothing, List.nil_append] at behind
        rw [behind] at fed_rest
        rw [nothing, behind, List.append_nil, follows fed_rest ended_rest]
      · rw [if_pos code] at fed ended
        rw [if_pos code, if_pos code]
        cases fed with
        | cons _ fed_rest =>
        cases ended with
        | cons _ ended_rest => exact congrArg _ (follows fed_rest ended_rest)

/-! ## The tokens that the server sees -/

/-- The directives are of their grammar and well nested. -/
def WellFormed (functions : TextFunctions) (ends : Char → Bool) (source : Text)
    (tokens : List Token) : Prop := ∃ result, Selects functions ends source tokens result

/-- The tokens of the selected branches are returned for every source on which the two ends of
lines make no difference, and else for none: at best the source is refused in either reading. -/
theorem selects_server_tokens_iff {tokens : List Token}
    (lexed : tokenize functions source = .ok tokens) :
    (∀ result, selectServerEffectiveTokens functions source tokens = .ok result ↔
        Selects functions isLineEnd source tokens result) ↔
      linesOf isLineFeed source tokens = linesOf isLineEnd source tokens ∨
        ¬WellFormed functions isLineFeed source tokens ∧
          ¬WellFormed functions isLineEnd source tokens := by
  constructor
  · intro agrees
    by_cases same : linesOf isLineFeed source tokens = linesOf isLineEnd source tokens
    · exact .inl same
    · have differ : ∀ result, Selects functions isLineFeed source tokens result →
          ¬Selects functions isLineEnd source tokens result := by
        rintro result ⟨items, -, fed, -⟩ ⟨others, -, ended, -⟩
        exact same (lines_agree fed ended)
      have readings (result : List Token) : Selects functions isLineFeed source tokens result ↔
          Selects functions isLineEnd source tokens result :=
        (selectServerEffectiveTokens_eq_ok lexed).symm.trans (agrees result)
      refine .inr ⟨?_, ?_⟩
      · rintro ⟨result, fed⟩
        exact differ result fed ((readings result).1 fed)
      · rintro ⟨result, ended⟩
        exact differ result ((readings result).2 ended) ended
  · rintro (same | ⟨refused, malformed⟩) result
    · rw [selectServerEffectiveTokens_eq_ok lexed, Selects, Selects, same]
    · rw [selectServerEffectiveTokens_eq_ok lexed]
      exact ⟨fun fed => absurd ⟨result, fed⟩ refused, fun ended => absurd ⟨result, ended⟩ malformed⟩

/-! ## Two sources -/

def lowerLetter (char : Char) : Char :=
  if 'A' ≤ char ∧ char ≤ 'Z' ∨ 'А' ≤ char ∧ char ≤ 'Я' then Char.ofNat (char.toNat + 32)
  else if char = 'Ё' then 'ё'
  else char

def letterFunctions : TextFunctions :=
  ⟨fun text => text.map lowerLetter, fun text => String.ofList text, Char.isDigit⟩

def tokensOf (source : Text) : List Token :=
  match tokenize letterFunctions source with
  | .ok tokens => tokens
  | .error _ => []

/-- Line feeds behind the carriage returns. -/
def branchSource : Text := "#Если НЕ Клиент Тогда\r\nА = 1;\r\n#Иначе\r\nА = 2;\r\n#КонецЕсли".toList

theorem branchSource_selects :
    (∀ result, selectServerEffectiveTokens letterFunctions branchSource (tokensOf branchSource) =
        .ok result ↔ Selects letterFunctions isLineEnd branchSource (tokensOf branchSource) result) ↔
      linesOf isLineFeed branchSource (tokensOf branchSource) =
          linesOf isLineEnd branchSource (tokensOf branchSource) ∨
        ¬WellFormed letterFunctions isLineFeed branchSource (tokensOf branchSource) ∧
          ¬WellFormed letterFunctions isLineEnd branchSource (tokensOf branchSource) :=
  selects_server_tokens_iff rfl

/-- A carriage return alone at the end of each line. -/
def regionSource : Text := "#Область А\rБ = 1;\r#КонецОбласти".toList

def regionOpening : List Token :=
  [⟨word "ОБЛАСТЬ", "Область".toList, 1, 8⟩, ⟨.identifier, ['А'], 9, 10⟩]

/-- The tokens of the line between the two directives. -/
def regionCode : List Token :=
  [⟨.identifier, ['Б'], 11, 12⟩, ⟨sign '=', ['='], 13, 14⟩, ⟨.number, ['1'], 15, 16⟩,
    ⟨sign ';', [';'], 16, 17⟩]

def regionClosing : List Token := [⟨word "КОНЕЦОБЛАСТИ", "КонецОбласти".toList, 19, 31⟩]

theorem regionSource_lines : linesOf isLineEnd regionSource (tokensOf regionSource) =
    .directive ⟨sign '#', ['#'], 0, 1⟩ regionOpening :: regionCode.map Line.code ++
      [.directive ⟨sign '#', ['#'], 18, 19⟩ regionClosing] := rfl

theorem regionSource_selects :
    Selects letterFunctions isLineEnd regionSource (tokensOf regionSource) regionCode := by
  refine ⟨.service :: regionCode.map Item.code ++ [.service], regionCode.map Block.code, ?_, ?_, rfl⟩
  · rw [regionSource_lines]
    refine .cons (.directive rfl (.region rfl rfl)) ?_
    refine .cons (.code _) (.cons (.code _) (.cons (.code _) (.cons (.code _) ?_)))
    exact .cons (.directive rfl (.plain (.inl rfl))) .nil
  · exact .service (.code (.code (.code (.code (.service .nil)))))

/-- The line between the directives is selected, but the source is refused. -/
theorem regionSource_refused : ∃ tokens, tokenize letterFunctions regionSource = .ok tokens ∧
    ¬∀ result, selectServerEffectiveTokens letterFunctions regionSource tokens = .ok result ↔
      Selects letterFunctions isLineEnd regionSource tokens result := by
  refine ⟨tokensOf regionSource, rfl, fun agrees => ?_⟩
  have done := (agrees regionCode).2 regionSource_selects
  cases done

end OnecRuntime.Preprocessor
