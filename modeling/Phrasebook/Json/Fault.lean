import Phrasebook.Text.Position

/-!
# Faults in JSON text

What can be wrong with a JSON text and where. A fault is placed by the number of bytes from it to
the end of the text, which a reader knows without counting what it has passed; the line and the
column that messages give are computed from it. Columns count the bytes behind the last newline,
so the place right behind a newline has column 0.
-/

namespace Phrasebook.Json

inductive Cause where
  | endInValue
  | endInArray
  | endInObject
  | endInString
  | expectedValue
  | expectedWord
  | expectedColon
  | expectedArraySeparator
  | expectedObjectSeparator
  | nameNotString
  | trailingComma
  | trailingText
  | invalidNumber
  | numberOutOfRange
  | invalidEscape
  | loneSurrogate
  | endOfHexEscape
  | controlCharacter
  | tooDeep
  deriving DecidableEq, Repr

def Cause.message : Cause → String
  | .endInValue => "EOF while parsing a value"
  | .endInArray => "EOF while parsing a list"
  | .endInObject => "EOF while parsing an object"
  | .endInString => "EOF while parsing a string"
  | .expectedValue => "expected value"
  | .expectedWord => "expected ident"
  | .expectedColon => "expected `:`"
  | .expectedArraySeparator => "expected `,` or `]`"
  | .expectedObjectSeparator => "expected `,` or `\x7d`"
  | .nameNotString => "key must be a string"
  | .trailingComma => "trailing comma"
  | .trailingText => "trailing characters"
  | .invalidNumber => "invalid number"
  | .numberOutOfRange => "number out of range"
  | .invalidEscape => "invalid escape"
  | .loneSurrogate => "lone leading surrogate in hex escape"
  | .endOfHexEscape => "unexpected end of hex escape"
  | .controlCharacter =>
    "control character (\\u0000-\\u001F) found while parsing a string"
  | .tooDeep => "recursion limit exceeded"

structure Fault where
  cause : Cause
  -- The bytes from the place to the end of the text.
  remaining : Nat
  deriving DecidableEq, Repr

namespace Fault

/-- A fault right before the rest of a text. -/
def before (rest : List Char) (cause : Cause) : Fault := ⟨cause, Text.byteLength rest⟩

/-- A fault behind the first `bytes` bytes of the rest of a text, or at its end. -/
def behind (bytes : Nat) (rest : List Char) (cause : Cause) : Fault :=
  ⟨cause, Text.byteLength rest - bytes⟩

end Fault

/-- The line and byte column behind `bytes` bytes of a text, from a given line and column on. -/
def placeFrom (line column : Nat) : List Char → Nat → Position
  | [], _ => ⟨line, column⟩
  | c :: rest, bytes =>
    if bytes = 0 then ⟨line, column⟩
    else if c = '\n' then placeFrom (line + 1) 0 rest (bytes - 1)
    else if bytes < c.utf8Size then ⟨line, column + bytes⟩
    else placeFrom line (column + c.utf8Size) rest (bytes - c.utf8Size)

def Fault.position (fault : Fault) (text : List Char) : Position :=
  placeFrom 1 0 text (Text.byteLength text - fault.remaining)

/-- A fault as it is reported: the cause with its line and byte column. -/
structure Error where
  cause : Cause
  -- The line, from 1, and the bytes behind the last newline before the place.
  position : Position
  deriving DecidableEq, Repr

def Fault.toError (fault : Fault) (text : List Char) : Error :=
  ⟨fault.cause, fault.position text⟩

def Error.message (error : Error) : String :=
  s!"{error.cause.message} at line {error.position.line} column {error.position.column}"

end Phrasebook.Json
