import OnecRuntime.Preprocessor.Selection

/-!
# What a condition parser accepts

The descent returns a value exactly where the tokens spell a condition of that value: what it takes
is spelled so, and what is spelled so is taken as far as it goes.
-/

namespace OnecRuntime.Preprocessor

open OnecRuntime.Library
open OnecRuntime.Bsl

variable {functions : TextFunctions}

variable {tokens : List Token}

variable {type : TokenType} {rest : List Token}

theorem accept_eq_some :
    accept type tokens = some rest ↔ ∃ token, tokens = token :: rest ∧ token.type = type := by
  cases tokens with
  | nil => simp [accept]
  | cons first later =>
    rw [accept, Option.ite_none_right_eq_some, Option.some.injEq]
    constructor
    · rintro ⟨same, rfl⟩
      exact ⟨first, rfl, same⟩
    · rintro ⟨token, same, typed⟩
      cases same
      exact ⟨typed, rfl⟩

theorem accept_cons {token : Token} (typed : token.type = type)
    (rest : List Token) : accept type (token :: rest) = some rest := if_pos typed

theorem accept_other {other : TokenType} {token : Token} (typed : token.type = other)
    (differs : other ≠ type) (rest : List Token) : accept type (token :: rest) = none :=
  if_neg (typed ▸ differs)

/-! ## What is taken is spelled -/

/-- What the parser takes from the head of the tokens is in the relation with its value. -/
def Takes (parser : ExpressionParser) (spelled : List Token → Bool → Prop) : Prop :=
  ∀ tokens value left, parser tokens = .ok (value, left) →
    ∃ read, tokens = read ++ left ∧ spelled read value

section Chains

variable {joint : TokenType} {combine : Bool → Bool → Bool} {operand : ExpressionParser}
  {spelled : List Token → Bool → Prop}

theorem chainFrom_takes (takes : Takes operand spelled) {fuel : Nat} {value result : Bool}
    {before tokens left : List Token} (chain : Chain joint combine spelled before value)
    (done : chainFrom joint combine operand fuel value tokens = .ok (result, left)) :
    ∃ read, tokens = read ++ left ∧ Chain joint combine spelled (before ++ read) result := by
  induction fuel generalizing value before tokens with
  | zero =>
    cases done
    exact ⟨[], rfl, (List.append_nil before).symm ▸ chain⟩
  | succ fuel follows =>
    unfold chainFrom at done
    cases accepted : accept joint tokens with
    | none =>
      rw [accepted] at done
      cases done
      exact ⟨[], rfl, (List.append_nil before).symm ▸ chain⟩
    | some rest =>
      rw [accepted] at done
      obtain ⟨token, rfl, joined⟩ := accept_eq_some.1 accepted
      obtain ⟨⟨next, behind⟩, taken, ended⟩ := bind_eq_ok.1 done
      obtain ⟨others, rfl, spelled⟩ := takes _ _ _ taken
      obtain ⟨more, rfl, whole⟩ := follows (chain.more joined spelled) ended
      refine ⟨token :: others ++ more, by simp, ?_⟩
      rwa [List.append_assoc] at whole

theorem parseChain_takes (takes : Takes operand spelled) :
    Takes (parseChain joint combine operand) (Chain joint combine spelled) := by
  intro tokens value left done
  obtain ⟨⟨first, behind⟩, taken, ended⟩ := bind_eq_ok.1 done
  obtain ⟨read, rfl, spelled⟩ := takes _ _ _ taken
  obtain ⟨more, rfl, whole⟩ := chainFrom_takes takes (.single spelled) ended
  exact ⟨read ++ more, (List.append_assoc ..).symm, whole⟩

/-- What is spelled as a chain is taken up to the loop behind it, if each operand is. -/
theorem parseChain_reaches {stop : List Token → Prop} {bound : Nat}
    (each : ∀ {read value rest}, spelled read value → read.length ≤ bound → stop rest →
      operand (read ++ rest) = .ok (value, rest))
    (joins : ∀ token rest, token.type = joint → stop (token :: rest)) {read : List Token}
    {value : Bool} (chain : Chain joint combine spelled read value) (inside : read.length ≤ bound)
    {rest : List Token} (stops : stop rest) :
    ∃ fuel, rest.length ≤ fuel ∧ parseChain joint combine operand (read ++ rest) =
      chainFrom joint combine operand fuel value rest := by
  induction chain generalizing rest with
  | single only =>
    refine ⟨rest.length, Nat.le_refl _, ?_⟩
    rw [parseChain, each only inside stops]
    rfl
  | @more tokens others token value next before joined behind follows =>
    rw [List.length_append, List.length_cons] at inside
    obtain ⟨fuel, enough, reached⟩ := follows (by omega) (joins token (others ++ rest) joined)
    rw [List.length_cons, List.length_append] at enough
    obtain ⟨less, rfl⟩ : ∃ less, fuel = less + 1 := ⟨fuel - 1, by omega⟩
    refine ⟨less, by omega, ?_⟩
    rw [List.append_assoc, List.cons_append, reached, chainFrom, accept_cons joined]
    dsimp only
    rw [each behind (by omega) stops]
    rfl

theorem chainFrom_stops {tokens : List Token} (stops : accept joint tokens = none) (fuel : Nat)
    (value : Bool) : chainFrom joint combine operand fuel value tokens = .ok (value, tokens) := by
  cases fuel with
  | zero => rfl
  | succ fuel => rw [chainFrom, stops]

end Chains

theorem parseOr_takes {unary : ExpressionParser} (takes : Takes unary (Unary functions)) :
    Takes (parseOr unary) (Condition functions) := parseChain_takes (parseChain_takes takes)

theorem parseUnary_takes (depth : Nat) : Takes (parseUnary functions depth) (Unary functions) := by
  induction depth with
  | zero =>
    intro tokens value left done
    cases done
  | succ depth follows =>
    intro tokens value left done
    unfold parseUnary at done
    cases negated : accept (word "НЕ") tokens with
    | some rest =>
      rw [negated] at done
      obtain ⟨token, rfl, negates⟩ := accept_eq_some.1 negated
      obtain ⟨⟨inner, behind⟩, taken, ended⟩ := bind_eq_ok.1 done
      obtain ⟨read, rfl, spelled⟩ := follows _ _ _ taken
      cases ended
      exact ⟨token :: read, rfl, .negation negates spelled⟩
    | none =>
      rw [negated] at done
      dsimp only at done
      cases opened : accept (sign '(') tokens with
      | some rest =>
        rw [opened] at done
        obtain ⟨opens, rfl, opening⟩ := accept_eq_some.1 opened
        obtain ⟨⟨inner, behind⟩, taken, ended⟩ := bind_eq_ok.1 done
        obtain ⟨read, rfl, spelled⟩ := parseOr_takes follows _ _ _ taken
        dsimp only at ended
        cases closed : accept (sign ')') behind with
        | none =>
          rw [closed] at ended
          cases ended
        | some last =>
          rw [closed] at ended
          obtain ⟨closes, rfl, closing⟩ := accept_eq_some.1 closed
          cases ended
          exact ⟨opens :: read ++ [closes], by simp, .parenthesised opening closing spelled⟩
      | none =>
        rw [opened] at done
        dsimp only at done
        cases tokens with
        | nil => cases done
        | cons token rest =>
          rw [parseSymbol] at done
          by_cases named : token.type = .identifier
          · rw [if_neg (not_not.2 named)] at done
            cases known : symbolValue functions token with
            | none =>
              rw [known] at done
              cases done
            | some held =>
              rw [known] at done
              cases done
              exact ⟨[token], rfl, .symbol named known⟩
          · rw [if_pos named] at done
            cases done

/-! ## What is spelled is taken -/

variable {value : Bool}

theorem parseOr_takes_whole {unary : ExpressionParser} {bound : Nat}
    (each : ∀ {read value rest}, Unary functions read value → read.length ≤ bound →
      unary (read ++ rest) = .ok (value, rest)) {read : List Token}
    (condition : Condition functions read value) (inside : read.length ≤ bound)
    (conjoined : accept (word "И") rest = none) (disjoined : accept (word "ИЛИ") rest = none) :
    parseOr unary (read ++ rest) = .ok (value, rest) := by
  have conjunction : ∀ {read value rest}, Chain (word "И") and (Unary functions) read value →
      read.length ≤ bound → accept (word "И") rest = none →
      parseAnd unary (read ++ rest) = .ok (value, rest) := by
    intro read value rest chain inside stops
    have operand : ∀ {read value rest}, Unary functions read value → read.length ≤ bound → True →
        unary (read ++ rest) = .ok (value, rest) := fun spelled inside _ => each spelled inside
    obtain ⟨fuel, -, reached⟩ :=
      parseChain_reaches operand (fun _ _ _ => trivial) chain inside trivial
    exact reached.trans (chainFrom_stops stops fuel value)
  obtain ⟨fuel, -, reached⟩ := parseChain_reaches conjunction
    (fun token rest joined => accept_other joined (by decide) rest) condition inside conjoined
  exact reached.trans (chainFrom_stops disjoined fuel value)

theorem parseUnary_takes_whole {bound depth : Nat} (enough : bound ≤ depth) {read : List Token}
    (unary : Unary functions read value)
    (inside : read.length ≤ bound) :
    parseUnary functions depth (read ++ rest) = .ok (value, rest) := by
  induction bound generalizing depth read value rest with
  | zero =>
    cases unary with
    | symbol => cases inside
    | negation => cases inside
    | parenthesised => cases inside
  | succ bound follows =>
    obtain ⟨less, rfl⟩ : ∃ less, depth = less + 1 := ⟨depth - 1, by omega⟩
    cases unary with
    | @symbol token value named known =>
      rw [parseUnary, List.singleton_append, accept_other named (by decide),
        accept_other named (by decide)]
      dsimp only
      rw [parseSymbol, if_neg (not_not.2 named), known]
    | @negation token tokens value negates spelled =>
      rw [parseUnary, List.cons_append, accept_cons negates]
      dsimp only
      rw [follows (Nat.le_of_succ_le_succ enough) spelled (Nat.le_of_succ_le_succ inside)]
      rfl
    | @parenthesised opens closes tokens value opening closing inner =>
      rw [List.length_append, List.length_cons, List.length_singleton] at inside
      rw [parseUnary, List.append_assoc, List.cons_append, accept_other opening (by decide),
        accept_cons opening]
      dsimp only
      have taken : parseOr (parseUnary functions less) (tokens ++ closes :: rest) =
          .ok (value, closes :: rest) := by
        refine parseOr_takes_whole (fun spelled inside => ?_) inner (Nat.le_refl _)
          (accept_other closing (by decide) rest) (accept_other closing (by decide) rest)
        exact follows (by omega) spelled (by omega)
      rw [List.singleton_append, taken, ok_bind]
      dsimp only
      rw [accept_cons closing]
      rfl

/-- No condition is spelled by nothing. -/
theorem Condition.ne_nil (condition : Condition functions tokens value) : tokens ≠ [] := by
  have unary {tokens : List Token} {value : Bool} (spelled : Unary functions tokens value) :
      tokens ≠ [] := by
    cases spelled with
    | symbol => exact List.cons_ne_nil _ _
    | negation => exact List.cons_ne_nil _ _
    | parenthesised => exact List.cons_ne_nil _ _
  have chain {joint : TokenType} {combine : Bool → Bool → Bool} {operand : List Token → Bool → Prop}
      (each : ∀ {tokens value}, operand tokens value → tokens ≠ []) {tokens : List Token}
      {value : Bool} (spelled : Chain joint combine operand tokens value) : tokens ≠ [] := by
    cases spelled with
    | single only => exact each only
    | more => exact List.append_ne_nil_of_right_ne_nil _ (List.cons_ne_nil _ _)
  exact chain (chain unary) condition

/-- The parser returns the value of the condition that the tokens spell, and raises where they
spell none or name an unknown symbol. -/
theorem parseExpression_eq_ok :
    parseExpression functions tokens = .ok value ↔ Condition functions tokens value := by
  unfold parseExpression parseTokens
  rw [mapError_eq_ok]
  constructor
  · intro done
    split at done
    · cases done
    obtain ⟨⟨held, left⟩, taken, ended⟩ := bind_eq_ok.1 done
    dsimp only at ended
    split at ended
    · next nothing =>
      obtain ⟨read, same, spelled⟩ := parseOr_takes (parseUnary_takes _) _ _ _ taken
      cases ended
      rwa [same, nothing, List.append_nil]
    · cases ended
  · intro condition
    rw [if_neg condition.ne_nil]
    have taken : parseOr (parseUnary functions tokens.length) (tokens ++ []) = .ok (value, []) :=
      parseOr_takes_whole
        (fun spelled inside => parseUnary_takes_whole (Nat.le_refl tokens.length) spelled inside)
        condition (Nat.le_refl _) rfl rfl
    rw [List.append_nil] at taken
    rw [taken]
    rfl

/-- What every token of a chain has that its joints and the tokens of its operands have. -/
theorem Chain.forall_tokens {joint : TokenType} {combine : Bool → Bool → Bool}
    {operand : List Token → Bool → Prop} {holds : Token → Prop}
    (joins : ∀ token : Token, token.type = joint → holds token)
    (each : ∀ {read value}, operand read value → read.length ≤ tokens.length →
      ∀ token ∈ read, holds token)
    (chain : Chain joint combine operand tokens value) : ∀ token ∈ tokens, holds token := by
  induction chain with
  | single only => exact each only (Nat.le_refl _)
  | @more tokens others token value next before joined behind follows =>
    rw [List.length_append, List.length_cons] at each
    refine List.forall_mem_append.2 ⟨follows fun spelled inside => each spelled (by omega), ?_⟩
    exact List.forall_mem_cons.2 ⟨joins token joined, each behind (by omega)⟩

theorem Unary.forall_tokens {holds : Token → Prop}
    (types : ∀ token : Token, token.type ∈
      [.identifier, word "НЕ", word "И", word "ИЛИ", sign '(', sign ')'] → holds token)
    {bound : Nat} (unary : Unary functions tokens value)
    (inside : tokens.length ≤ bound) : ∀ token ∈ tokens, holds token := by
  induction bound generalizing tokens value with
  | zero =>
    cases unary with
    | symbol => cases inside
    | negation => cases inside
    | parenthesised => cases inside
  | succ bound follows =>
    cases unary with
    | symbol named known =>
      exact List.forall_mem_singleton.2 (types _ (by simp [named]))
    | negation negates rest =>
      exact List.forall_mem_cons.2 ⟨types _ (by simp [negates]),
        follows rest (Nat.le_of_succ_le_succ inside)⟩
    | @parenthesised opens closes tokens value opening closing inner =>
      rw [List.length_append, List.length_cons, List.length_singleton] at inside
      have conjunction {read : List Token} {value : Bool}
          (spelled : Chain (word "И") and (Unary functions) read value)
          (short : read.length ≤ tokens.length) : ∀ token ∈ read, holds token :=
        Chain.forall_tokens (fun token joined => types token (by simp [joined]))
          (fun unary shorter => follows unary (by omega)) spelled
      rw [List.cons_append]
      refine List.forall_mem_cons.2 ⟨types _ (by simp [opening]), List.forall_mem_append.2 ⟨?_, ?_⟩⟩
      · exact Chain.forall_tokens (fun token joined => types token (by simp [joined])) conjunction inner
      · exact List.forall_mem_singleton.2 (types _ (by simp [closing]))

/-- A condition has no keyword but its joints and negations. -/
theorem Condition.no_then
    (condition : Condition functions tokens value) : ∀ token ∈ tokens, token.type ≠ word "ТОГДА" := by
  have types : ∀ token : Token, token.type ∈
      [.identifier, word "НЕ", word "И", word "ИЛИ", sign '(', sign ')'] →
        token.type ≠ word "ТОГДА" := by
    intro token among same
    rw [same] at among
    revert among
    decide
  refine Chain.forall_tokens (fun token joined => types token (by simp [joined])) ?_ condition
  intro read value spelled inside
  refine Chain.forall_tokens (fun token joined => types token (by simp [joined])) ?_ spelled
  intro read value unary inside
  exact unary.forall_tokens types (Nat.le_refl _)

end OnecRuntime.Preprocessor
