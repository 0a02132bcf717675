import OnecRuntime.Bsl.Words
import OnecRuntime.Library.Fallible
import OnecRuntime.SourceMaps.Segments

/-!
# The lexer of the language

`bsl/lexer.py`: one loop over the source that skips blanks and comments and
takes strings, dates, numbers, names and operators.  The decimal digits of the
number pattern and the quoted form of a character are parameters.
-/

namespace OnecRuntime.Bsl

open OnecRuntime.Library
open OnecRuntime.SourceMaps (Text SourceSpan)

/-- `str.isspace` of one character. -/
def isSpace (char : Char) : Bool :=
  char.toNat ∈ [0x09, 0x0A, 0x0B, 0x0C, 0x0D, 0x1C, 0x1D, 0x1E, 0x1F, 0x20, 0x85, 0xA0, 0x1680,
    0x2000, 0x2001, 0x2002, 0x2003, 0x2004, 0x2005, 0x2006, 0x2007, 0x2008, 0x2009, 0x200A,
    0x2028, 0x2029, 0x202F, 0x205F, 0x3000]

/-- The text functions of the language runtime that the modules over the lexer use. -/
structure TextFunctions where
  casefold : Text → Text
  /-- `repr`. -/
  represent : Text → String
  /-- `\d` of the number pattern. -/
  decimalDigit : Char → Bool

inductive TokenType where
  | identifier
  | string
  | datetime
  | number
  | keyword (canonical : String)
  | operator (text : Text)
  deriving DecidableEq, Repr

structure Token where
  type : TokenType
  text : Text
  start : Nat
  stop : Nat
  deriving DecidableEq, Repr

structure BslLexError where
  message : String
  span : SourceSpan
  code : String
  deriving DecidableEq

/-- `KEYWORDS`. -/
def keywordTable : List (String × String) :=
  [("ПЕРЕМ", "ПЕРЕМ"), ("VAR", "ПЕРЕМ"), ("ЭКСПОРТ", "ЭКСПОРТ"), ("EXPORT", "ЭКСПОРТ"),
    ("АСИНХ", "АСИНХ"), ("ASYNC", "АСИНХ"), ("ПРОЦЕДУРА", "ПРОЦЕДУРА"),
    ("PROCEDURE", "ПРОЦЕДУРА"), ("КОНЕЦПРОЦЕДУРЫ", "КОНЕЦПРОЦЕДУРЫ"),
    ("ENDPROCEDURE", "КОНЕЦПРОЦЕДУРЫ"), ("ФУНКЦИЯ", "ФУНКЦИЯ"), ("FUNCTION", "ФУНКЦИЯ"),
    ("КОНЕЦФУНКЦИИ", "КОНЕЦФУНКЦИИ"), ("ENDFUNCTION", "КОНЕЦФУНКЦИИ"), ("ЗНАЧ", "ЗНАЧ"),
    ("VAL", "ЗНАЧ"), ("ЕСЛИ", "ЕСЛИ"), ("IF", "ЕСЛИ"), ("ТОГДА", "ТОГДА"), ("THEN", "ТОГДА"),
    ("ИНАЧЕЕСЛИ", "ИНАЧЕЕСЛИ"), ("ELSIF", "ИНАЧЕЕСЛИ"), ("ИНАЧЕ", "ИНАЧЕ"), ("ELSE", "ИНАЧЕ"),
    ("КОНЕЦЕСЛИ", "КОНЕЦЕСЛИ"), ("ENDIF", "КОНЕЦЕСЛИ"), ("ПОКА", "ПОКА"), ("WHILE", "ПОКА"),
    ("ЦИКЛ", "ЦИКЛ"), ("DO", "ЦИКЛ"), ("КОНЕЦЦИКЛА", "КОНЕЦЦИКЛА"), ("ENDDO", "КОНЕЦЦИКЛА"),
    ("ДЛЯ", "ДЛЯ"), ("FOR", "ДЛЯ"), ("КАЖДОГО", "КАЖДОГО"), ("EACH", "КАЖДОГО"), ("ИЗ", "ИЗ"),
    ("IN", "ИЗ"), ("ПО", "ПО"), ("TO", "ПО"), ("ПОПЫТКА", "ПОПЫТКА"), ("TRY", "ПОПЫТКА"),
    ("ИСКЛЮЧЕНИЕ", "ИСКЛЮЧЕНИЕ"), ("EXCEPT", "ИСКЛЮЧЕНИЕ"), ("КОНЕЦПОПЫТКИ", "КОНЕЦПОПЫТКИ"),
    ("ENDTRY", "КОНЕЦПОПЫТКИ"), ("ВОЗВРАТ", "ВОЗВРАТ"), ("RETURN", "ВОЗВРАТ"),
    ("ПРОДОЛЖИТЬ", "ПРОДОЛЖИТЬ"), ("CONTINUE", "ПРОДОЛЖИТЬ"), ("ПРЕРВАТЬ", "ПРЕРВАТЬ"),
    ("BREAK", "ПРЕРВАТЬ"), ("ВЫЗВАТЬИСКЛЮЧЕНИЕ", "ВЫЗВАТЬИСКЛЮЧЕНИЕ"),
    ("RAISE", "ВЫЗВАТЬИСКЛЮЧЕНИЕ"), ("ВЫПОЛНИТЬ", "ВЫПОЛНИТЬ"), ("EXECUTE", "ВЫПОЛНИТЬ"),
    ("ПЕРЕЙТИ", "ПЕРЕЙТИ"), ("GOTO", "ПЕРЕЙТИ"), ("ДОБАВИТЬОБРАБОТЧИК", "ДОБАВИТЬОБРАБОТЧИК"),
    ("ADDHANDLER", "ДОБАВИТЬОБРАБОТЧИК"), ("УДАЛИТЬОБРАБОТЧИК", "УДАЛИТЬОБРАБОТЧИК"),
    ("REMOVEHANDLER", "УДАЛИТЬОБРАБОТЧИК"), ("ЖДАТЬ", "ЖДАТЬ"), ("AWAIT", "ЖДАТЬ"), ("И", "И"),
    ("AND", "И"), ("ИЛИ", "ИЛИ"), ("OR", "ИЛИ"), ("НЕ", "НЕ"), ("NOT", "НЕ"), ("НОВЫЙ", "НОВЫЙ"),
    ("NEW", "НОВЫЙ"), ("ИСТИНА", "ИСТИНА"), ("TRUE", "ИСТИНА"), ("ЛОЖЬ", "ЛОЖЬ"),
    ("FALSE", "ЛОЖЬ"), ("НЕОПРЕДЕЛЕНО", "НЕОПРЕДЕЛЕНО"), ("UNDEFINED", "НЕОПРЕДЕЛЕНО"),
    ("NULL", "NULL"), ("ОБЛАСТЬ", "ОБЛАСТЬ"), ("REGION", "ОБЛАСТЬ"),
    ("КОНЕЦОБЛАСТИ", "КОНЕЦОБЛАСТИ"), ("ENDREGION", "КОНЕЦОБЛАСТИ"),
    ("ИСПОЛЬЗОВАТЬ", "ИСПОЛЬЗОВАТЬ"), ("USE", "ИСПОЛЬЗОВАТЬ"), ("NATIVE", "NATIVE"),
    ("STACK", "STACK")]

/-- `_PREPROCESSOR_ONLY_KEYWORDS`. -/
def preprocessorOnlyKeywords : List String :=
  ["ОБЛАСТЬ", "REGION", "КОНЕЦОБЛАСТИ", "ENDREGION", "ИСПОЛЬЗОВАТЬ", "USE", "NATIVE", "STACK"]

/-! ## One turn of the loop -/

/-- What one turn of the loop finds at the head of the text that is left. -/
inductive Lexeme where
  | skip (width : Nat)
  | token (type : TokenType) (width : Nat)
  | unterminatedString
  | unterminatedDateLiteral
  | unexpectedCharacter (char : Char)
  deriving DecidableEq

/-- The width of a string behind its opening quote; a doubled quote stands inside. -/
def stringWidth : Text → Option Nat
  | [] => none
  | [only] => if only = '"' then some 1 else none
  | first :: second :: rest =>
      if first = '"' then
        if second = '"' then (stringWidth rest).map (· + 2) else some 1
      else (stringWidth (second :: rest)).map (· + 1)

/-- The width of a date literal behind its opening quote. -/
def dateWidth (rest : Text) : Option Nat := (rest.findIdx? (· = '\'')).map (· + 1)

def commentWidth (rest : Text) : Nat :=
  match rest.findIdx? (· = '\n') with
  | some newline => newline + 1
  | none => rest.length

section Numbers

variable (decimalDigit : Char → Bool)

def digits (rest : Text) : Nat := (rest.takeWhile decimalDigit).length

/-- `\d+(?:\.\d*)?|\.\d+`. -/
def mantissaWidth (rest : Text) : Option Nat :=
  let whole := digits decimalDigit rest
  let fraction := digits decimalDigit (rest.drop (whole + 1))
  if (rest.drop whole).head? = some '.' then
    if 0 < whole ∨ 0 < fraction then some (whole + 1 + fraction) else none
  else if 0 < whole then some whole
  else none

def signWidth (rest : Text) : Nat :=
  if rest.head? = some '+' ∨ rest.head? = some '-' then 1 else 0

/-- `(?:[eE][+-]?\d+)?`. -/
def exponentWidth (rest : Text) : Nat :=
  if rest.head? = some 'e' ∨ rest.head? = some 'E' then
    let sign := signWidth (rest.drop 1)
    let power := digits decimalDigit (rest.drop (1 + sign))
    if 0 < power then 1 + sign + power else 0
  else 0

/-- `_NUMBER.match`. -/
def numberWidth (rest : Text) : Option Nat :=
  (mantissaWidth decimalDigit rest).map fun width =>
    width + exponentWidth decimalDigit (rest.drop width)

end Numbers

def upperText (text : Text) : String := String.ofList (text.map upperChar)

def identifierType (followsHash force : Bool) (text : Text) : TokenType :=
  let keyword := upperText text
  if force ∨ keyword ∈ preprocessorOnlyKeywords ∧ followsHash = false then .identifier
  else
    match keywordTable.lookup keyword with
    | some canonical => .keyword canonical
    | none => .identifier

/-- The operator at the head of a text, the longer ones first. -/
def operatorText (rest : Text) : Option Text :=
  if rest.take 2 ∈ [['<', '='], ['>', '='], ['<', '>']] then some (rest.take 2)
  else
    match rest with
    | [] => none
    | first :: _ => if first ∈ ";,().[]+-*/%=<>?:~#&".toList then some [first] else none

/-- One turn of the loop, at a text that is not empty. -/
def lexeme (decimalDigit : Char → Bool) (followsHash force : Bool) (first : Char) (rest : Text) :
    Lexeme :=
  if isSpace first then .skip 1
  else if first = '/' ∧ rest.head? = some '/' then .skip (commentWidth (first :: rest))
  else if first = '"' then
    match stringWidth rest with
    | some width => .token .string (width + 1)
    | none => .unterminatedString
  else if first = '\'' then
    match dateWidth rest with
    | some width => .token .datetime (width + 1)
    | none => .unterminatedDateLiteral
  else
    match numberWidth decimalDigit (first :: rest) with
    | some width => .token .number width
    | none =>
        if identifierStart first then
          let text := first :: rest.takeWhile identifierPart
          .token (identifierType followsHash force text) text.length
        else
          match operatorText (first :: rest) with
          | some text => .token (.operator text) text.length
          | none => .unexpectedCharacter first

/-! ## The loop -/

/-- A name follows these operators, whatever it spells. -/
def forcesIdentifier (type : TokenType) : Bool :=
  type = .operator ['.'] || type = .operator ['&']

section Loop

variable (functions : TextFunctions)

def lexFrom : Nat → Nat → Bool → Bool → Text → Except BslLexError (List Token)
  | 0, _, _, _, _ => .ok []
  | _ + 1, _, _, _, [] => .ok []
  | fuel + 1, position, followsHash, force, first :: rest =>
      match lexeme functions.decimalDigit followsHash force first rest with
      | .skip width =>
          lexFrom fuel (position + width) followsHash force ((first :: rest).drop width)
      | .token type width => do
          let later ← lexFrom fuel (position + width) (type = .operator ['#'])
            (forcesIdentifier type) ((first :: rest).drop width)
          pure (⟨type, (first :: rest).take width, position, position + width⟩ :: later)
      | .unterminatedString =>
          .error ⟨s!"Unterminated string at {position}",
            .ofWidth position (first :: rest).length, "unterminated_string"⟩
      | .unterminatedDateLiteral =>
          .error ⟨s!"Unterminated date literal at {position}",
            .ofWidth position (first :: rest).length, "unterminated_date_literal"⟩
      | .unexpectedCharacter char =>
          .error ⟨s!"Unexpected character {functions.represent [char]} at {position}",
            .ofWidth position 1, "unexpected_character"⟩

def tokenize (source : Text) : Except BslLexError (List Token) :=
  lexFrom functions source.length 0 false false source

end Loop

/-! ## Widths -/

variable {rest : Text}

theorem stringWidth_bounds {width : Nat} (found : stringWidth rest = some width) :
    0 < width ∧ width ≤ rest.length := by
  induction rest using stringWidth.induct generalizing width with
  | case1 => cases found
  | case2 =>
      obtain rfl := Option.some.inj found
      exact ⟨Nat.one_pos, Nat.le_refl _⟩
  | case3 only other =>
      rw [stringWidth, if_neg other] at found
      cases found
  | case4 rest ih =>
      rw [stringWidth, if_pos rfl, if_pos rfl] at found
      obtain ⟨inner, innerFound, rfl⟩ := Option.map_eq_some_iff.mp found
      obtain ⟨_, inside⟩ := ih innerFound
      exact ⟨by omega, by simpa using inside⟩
  | case5 second rest other =>
      rw [stringWidth, if_pos rfl, if_neg other] at found
      obtain rfl := Option.some.inj found
      exact ⟨Nat.one_pos, by simp⟩
  | case6 first second rest other ih =>
      rw [stringWidth, if_neg other] at found
      obtain ⟨inner, innerFound, rfl⟩ := Option.map_eq_some_iff.mp found
      obtain ⟨_, inside⟩ := ih innerFound
      exact ⟨by omega, by simpa using inside⟩

theorem digits_le (decimalDigit : Char → Bool) (rest : Text) :
    digits decimalDigit rest ≤ rest.length :=
  (List.takeWhile_sublist _).length_le

theorem length_pos_of_head? {char : Char} (head : rest.head? = some char) :
    0 < rest.length := by
  cases rest with
  | nil => cases head
  | cons first later => exact Nat.succ_pos _

theorem mantissaWidth_bounds {decimalDigit : Char → Bool} {width : Nat}
    (found : mantissaWidth decimalDigit rest = some width) : 0 < width ∧ width ≤ rest.length := by
  have wholeInside := digits_le decimalDigit rest
  have fractionInside := digits_le decimalDigit
    (rest.drop (digits decimalDigit rest + 1))
  rw [List.length_drop] at fractionInside
  simp only [mantissaWidth] at found
  split_ifs at found with point either whole
  · have more := length_pos_of_head? point
    rw [List.length_drop] at more
    obtain rfl := Option.some.inj found
    omega
  · obtain rfl := Option.some.inj found
    exact ⟨whole, wholeInside⟩

theorem exponentWidth_le (decimalDigit : Char → Bool) (rest : Text) :
    exponentWidth decimalDigit rest ≤ rest.length := by
  have inside := digits_le decimalDigit (rest.drop (1 + signWidth (rest.drop 1)))
  rw [List.length_drop] at inside
  simp only [exponentWidth]
  split_ifs <;> omega

theorem numberWidth_bounds {decimalDigit : Char → Bool} {width : Nat}
    (found : numberWidth decimalDigit rest = some width) : 0 < width ∧ width ≤ rest.length := by
  obtain ⟨mantissa, mantissaFound, rfl⟩ := Option.map_eq_some_iff.mp found
  obtain ⟨some_width, inside⟩ := mantissaWidth_bounds mantissaFound
  have exponent := exponentWidth_le decimalDigit (rest.drop mantissa)
  rw [List.length_drop] at exponent
  omega

/-- An operator is the head of the text. -/
theorem operatorText_eq {text : Text} (found : operatorText rest = some text) :
    0 < text.length ∧ text.length ≤ rest.length ∧ rest.take text.length = text := by
  unfold operatorText at found
  split_ifs at found with double
  · obtain rfl := Option.some.inj found
    have width : (rest.take 2).length = 2 := by
      rcases List.mem_cons.mp double with same | double
      · rw [same]; rfl
      rcases List.mem_cons.mp double with same | double
      · rw [same]; rfl
      rw [List.mem_singleton.mp double]; rfl
    rw [List.length_take] at width
    rw [List.length_take]
    exact ⟨by omega, by omega, by rw [width]⟩
  · cases rest with
    | nil => cases found
    | cons first later =>
        simp only at found
        split_ifs at found
        obtain rfl := Option.some.inj found
        exact ⟨Nat.one_pos, by simp, rfl⟩

/-- What a turn takes is some of the text, and an operator spells itself. -/
def Lexeme.Sound (text : Text) : Lexeme → Prop
  | .skip width => 0 < width ∧ width ≤ text.length
  | .token type width =>
      0 < width ∧ width ≤ text.length ∧ ∀ operator, type = .operator operator →
        text.take width = operator
  | _ => True

theorem identifierType_ne_operator {followsHash force : Bool} {text operator : Text} :
    identifierType followsHash force text ≠ .operator operator := by
  simp only [identifierType]
  split_ifs
  · exact fun same => by cases same
  · split <;> exact fun same => by cases same

theorem lexeme_sound (decimalDigit : Char → Bool) (followsHash force : Bool) (first : Char)
    (rest : Text) : (lexeme decimalDigit followsHash force first rest).Sound (first :: rest) := by
  have number {width : Nat} (found : numberWidth decimalDigit (first :: rest) = some width) :
      (Lexeme.token .number width).Sound (first :: rest) := by
    obtain ⟨some_width, inside⟩ := numberWidth_bounds found
    exact ⟨some_width, inside, fun operator same => by cases same⟩
  unfold lexeme
  split_ifs with blank comment quote date start
  · exact ⟨Nat.one_pos, Nat.succ_le_succ (Nat.zero_le _)⟩
  · unfold commentWidth
    split
    · next newline found =>
        obtain ⟨inside, _⟩ := List.findIdx?_eq_some_iff_getElem.mp found
        exact ⟨Nat.succ_pos _, inside⟩
    · exact ⟨Nat.succ_pos _, Nat.le_refl _⟩
  · split
    · next width found =>
        obtain ⟨_, inside⟩ := stringWidth_bounds found
        exact ⟨Nat.succ_pos _, Nat.succ_le_succ inside, fun operator same => by cases same⟩
    · trivial
  · split
    · next width found =>
        obtain ⟨index, indexFound, rfl⟩ := Option.map_eq_some_iff.mp found
        obtain ⟨inside, _⟩ := List.findIdx?_eq_some_iff_getElem.mp indexFound
        exact ⟨Nat.succ_pos _, Nat.succ_le_succ inside, fun operator same => by cases same⟩
    · trivial
  · split
    · next width found => exact number found
    · exact ⟨Nat.succ_pos _, Nat.succ_le_succ (List.takeWhile_sublist _).length_le,
        fun operator same => (identifierType_ne_operator same).elim⟩
  · split
    · next width found => exact number found
    · split
      · next text found =>
          obtain ⟨some_width, inside, head⟩ := operatorText_eq found
          refine ⟨some_width, inside, fun operator same => ?_⟩
          obtain rfl := TokenType.operator.inj same
          exact head
      · trivial

/-! ## Tokens -/

/-- A token spells a part of the source, and an operator token its operator. -/
structure Token.Stands (source : Text) (token : Token) : Prop where
  nonempty : token.start < token.stop
  inside : token.stop ≤ source.length
  text : token.text = (source.drop token.start).take (token.stop - token.start)
  operator : ∀ operator, token.type = .operator operator → token.text = operator

theorem lexFrom_stands {functions : TextFunctions} {source : Text} {fuel position : Nat}
    {followsHash force : Bool} {tokens : List Token}
    (lexed : lexFrom functions fuel position followsHash force (source.drop position) = .ok tokens) :
    ∀ token ∈ tokens, position ≤ token.start ∧ token.Stands source := by
  induction fuel generalizing position followsHash force tokens with
  | zero =>
      obtain rfl := Except.ok.inj lexed
      exact fun token member => by cases member
  | succ fuel ih =>
      cases left : source.drop position with
      | nil =>
          rw [left] at lexed
          obtain rfl := Except.ok.inj lexed
          exact fun token member => by cases member
      | cons first rest =>
          rw [left, lexFrom] at lexed
          have length := congrArg List.length left
          rw [List.length_drop] at length
          have sound := lexeme_sound functions.decimalDigit followsHash force first rest
          have drop (width : Nat) :
              (first :: rest).drop width = source.drop (position + width) := by
            rw [← left, List.drop_drop]
          split at lexed
          · next width found =>
              rw [drop] at lexed
              intro token member
              obtain ⟨behind, stands⟩ := ih lexed token member
              exact ⟨by omega, stands⟩
          · next type width found =>
              rw [drop] at lexed
              rw [found] at sound
              obtain ⟨some_width, inside, operator⟩ := sound
              obtain ⟨later, laterLexed, made⟩ := bind_eq_ok.mp lexed
              obtain rfl := pure_eq_ok.mp made
              intro token member
              rcases List.mem_cons.mp member with rfl | inLater
              · refine ⟨Nat.le_refl _, Nat.lt_add_of_pos_right some_width, ?_, ?_, operator⟩
                · change position + width ≤ source.length
                  omega
                · change (first :: rest).take width =
                    (source.drop position).take (position + width - position)
                  rw [left, Nat.add_sub_cancel_left]
              · obtain ⟨behind, stands⟩ := ih laterLexed token inLater
                exact ⟨by omega, stands⟩
          all_goals cases lexed

theorem tokenize_stands {functions : TextFunctions} {source : Text} {tokens : List Token}
    (lexed : tokenize functions source = .ok tokens) {token : Token} (member : token ∈ tokens) :
    token.Stands source :=
  (@lexFrom_stands functions source source.length 0 false false tokens lexed token member).2

end OnecRuntime.Bsl
