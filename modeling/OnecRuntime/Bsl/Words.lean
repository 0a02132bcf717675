import Mathlib.Data.List.Basic

/-!
# Identifiers and literals of the language

The alphabet of names, as the lexer and the identifier checks have it: Latin and
Cyrillic letters, the underscore, and digits behind the first character.
Upper-casing such a name moves its letters inside the alphabet. A text becomes an
expression of the language: its lines are literals of their own with doubled quotation
marks, joined by the line feed constant.
-/

namespace OnecRuntime.Bsl

/-- `[A-Za-zА-Яа-яЁё_]`. -/
def identifierStart (char : Char) : Bool :=
  decide ('A' ≤ char ∧ char ≤ 'Z') || decide ('a' ≤ char ∧ char ≤ 'z') ||
    decide ('А' ≤ char ∧ char ≤ 'Я') || decide ('а' ≤ char ∧ char ≤ 'я') ||
    decide (char = 'Ё') || decide (char = 'ё') || decide (char = '_')

def identifierPart (char : Char) : Bool :=
  identifierStart char || decide ('0' ≤ char ∧ char ≤ '9')

/-- The pattern of a name, matched in full. -/
def identifierPattern : List Char → Bool
  | [] => false
  | first :: rest => identifierStart first && rest.all identifierPart

/-- `str.upper` on a character of a name. -/
def upperChar (char : Char) : Char :=
  if 'a' ≤ char ∧ char ≤ 'z' ∨ 'а' ≤ char ∧ char ≤ 'я' then Char.ofNat (char.toNat - 32)
  else if char = 'ё' then 'Ё'
  else char

/-- The keys of `KEYWORDS`. -/
def keywords : List String :=
  ["ПЕРЕМ", "VAR", "ЭКСПОРТ", "EXPORT", "АСИНХ", "ASYNC", "ПРОЦЕДУРА", "PROCEDURE",
    "КОНЕЦПРОЦЕДУРЫ", "ENDPROCEDURE", "ФУНКЦИЯ", "FUNCTION", "КОНЕЦФУНКЦИИ", "ENDFUNCTION",
    "ЗНАЧ", "VAL", "ЕСЛИ", "IF", "ТОГДА", "THEN", "ИНАЧЕЕСЛИ", "ELSIF", "ИНАЧЕ", "ELSE",
    "КОНЕЦЕСЛИ", "ENDIF", "ПОКА", "WHILE", "ЦИКЛ", "DO", "КОНЕЦЦИКЛА", "ENDDO", "ДЛЯ", "FOR",
    "КАЖДОГО", "EACH", "ИЗ", "IN", "ПО", "TO", "ПОПЫТКА", "TRY", "ИСКЛЮЧЕНИЕ", "EXCEPT",
    "КОНЕЦПОПЫТКИ", "ENDTRY", "ВОЗВРАТ", "RETURN", "ПРОДОЛЖИТЬ", "CONTINUE", "ПРЕРВАТЬ",
    "BREAK", "ВЫЗВАТЬИСКЛЮЧЕНИЕ", "RAISE", "ВЫПОЛНИТЬ", "EXECUTE", "ПЕРЕЙТИ", "GOTO",
    "ДОБАВИТЬОБРАБОТЧИК", "ADDHANDLER", "УДАЛИТЬОБРАБОТЧИК", "REMOVEHANDLER", "ЖДАТЬ", "AWAIT",
    "И", "AND", "ИЛИ", "OR", "НЕ", "NOT", "НОВЫЙ", "NEW", "ИСТИНА", "TRUE", "ЛОЖЬ", "FALSE",
    "НЕОПРЕДЕЛЕНО", "UNDEFINED", "NULL", "ОБЛАСТЬ", "REGION", "КОНЕЦОБЛАСТИ", "ENDREGION",
    "ИСПОЛЬЗОВАТЬ", "USE", "NATIVE", "STACK"]

/-- `_bsl_identifier`: a name that is no keyword in any case. -/
def bslIdentifier (value : String) : Bool :=
  identifierPattern value.toList &&
    !keywords.contains (String.ofList (value.toList.map upperChar))

/-! ## String literals -/

/-- Carriage returns, with or without a line feed behind them, as line feeds. -/
def normalizedLines : List Char → List Char
  | '\r' :: '\n' :: rest => '\n' :: normalizedLines rest
  | '\r' :: rest => '\n' :: normalizedLines rest
  | char :: rest => char :: normalizedLines rest
  | [] => []

/-- A quotation mark inside a literal is written twice. -/
def quotedChar (char : Char) : List Char := if char = '"' then ['"', '"'] else [char]

def quotedLine (line : List Char) : List Char := '"' :: (line.flatMap quotedChar ++ ['"'])

/-- `bsl_string_literal`. -/
def bslStringLiteral (value : List Char) : List Char :=
  " + Символы.ПС + ".toList.intercalate (((normalizedLines value).splitOn '\n').map quotedLine)

/-- `build_live_current_capture_call`. -/
def buildLiveCurrentCaptureCall (instruction : List Char) : List Char :=
  "RuntimeKernelServer.ВыполнитьКодВКонтекстеОтладки(e1cRuntimeКонтекст, ".toList ++
    bslStringLiteral instruction ++ [')']

example : bslStringLiteral "a\"b\r\nc".toList = "\"a\"\"b\" + Символы.ПС + \"c\"".toList := by
  decide +kernel

end OnecRuntime.Bsl
