/-!
Why a text is not JSON, and where.
-/

namespace SpecScribe.Json

/-- What was expected or found at a place of the text. -/
inductive Cause where
  | byteOrderMark
  | value
  | propertyName
  | colon
  | comma
  | extraData
  | unterminatedText
  | controlCharacter
  | escape
  | unicodeEscape
  deriving DecidableEq

def Cause.message : Cause → String
  | .byteOrderMark => "Unexpected UTF-8 BOM (decode using utf-8-sig)"
  | .value => "Expecting value"
  | .propertyName => "Expecting property name enclosed in double quotes"
  | .colon => "Expecting ':' delimiter"
  | .comma => "Expecting ',' delimiter"
  | .extraData => "Extra data"
  | .unterminatedText => "Unterminated string starting at"
  | .controlCharacter => "Invalid control character at"
  | .escape => "Invalid \\escape"
  | .unicodeEscape => "Invalid \\uXXXX escape"

/-- A cause with its place: the offset, and the line and column it falls on. -/
structure Error where
  cause : Cause
  line : Nat
  column : Nat
  offset : Nat
  deriving DecidableEq

def Error.message (e : Error) : String :=
  e.cause.message ++ ": line " ++ toString e.line ++ " column " ++ toString e.column
    ++ " (char " ++ toString e.offset ++ ")"

/-- Line and column of an offset, both counted from one. -/
def place (text : List Char) (offset : Nat) : Nat × Nat :=
  let before := text.take offset
  (before.count '\n' + 1, (before.reverse.takeWhile (· != '\n')).length + 1)

def Error.at (text : List Char) (cause : Cause) (offset : Nat) : Error :=
  let (line, column) := place text offset
  ⟨cause, line, column, offset⟩

/-- Why reading stopped: the text is not JSON, or a number has too many digits. -/
inductive Stop where
  | malformed (cause : Cause) (offset : Nat)
  | tooManyDigits (count : Nat)
  deriving DecidableEq

end SpecScribe.Json
