import Phrasebook.Double.Text
import Phrasebook.Json.Reader
import Phrasebook.Json.Writer
import Phrasebook.Text.Blank

/-!
# Values

What a caller binds to the parameters of a phrase. Every value has a plain text, and numeric
formatters read a number out of it. Values come from host numbers and texts and from JSON
documents, and go to JSON documents; `null` and objects have no value of their own, so one way
from JSON carries them as their text and the other refuses them.
-/

namespace Phrasebook

inductive Value where
  | bool (value : Bool)
  | number (value : Int64)
  | float (value : Double)
  | text (value : String)
  | list (items : List Value)
  deriving BEq, Inhabited

namespace Value

mutual

def plainChars : Value → List Char
  | .bool true => "true".toList
  | .bool false => "false".toList
  | .number n => Json.integerText n.toInt
  | .float x => x.plainText.toList
  | .text value => value.toList
  | .list items => plainItems items

/-- The plain texts of the items with commas between them. -/
def plainItems : List Value → List Char
  | [] => []
  | [item] => plainChars item
  | item :: rest => plainChars item ++ ',' :: plainItems rest

end

/-- The plain text: the items of a list are joined by commas, at every depth. -/
def plainText (value : Value) : String := String.ofList (plainChars value)

def number? : Value → Option Int64
  | .number n => some n
  | _ => none

def float? : Value → Option Double
  | .number n => some (.ofInt n.toInt)
  | .float x => some x
  | _ => none

def text? : Value → Option String
  | .text value => some value
  | _ => none

def list? : Value → Option (List Value)
  | .list items => some items
  | _ => none

/-- The number that numeric formatters see: a text counts as the number it spells between
blanks. -/
def numeric? : Value → Option Double
  | .number n => some (.ofInt n.toInt)
  | .float x => some x
  | .text value => Double.readWith? Double.ofRatio (Text.trim value.toList)
  | .bool _ => none
  | .list _ => none

def isOne : Value → Bool
  | .number n => n == 1
  | .float x => x == .ofInt 1
  | _ => false

/-! ## Host numbers -/

def ofInt32 (n : Int32) : Value := .number n.toInt64

def ofInt64 (n : Int64) : Value := .number n

def ofUInt32 (n : UInt32) : Value := .number n.toUInt64.toInt64

/-- An unsigned 64-bit number; the upper half of the range wraps to the negative numbers. -/
def ofUInt64 (n : UInt64) : Value := .number n.toInt64

/-! ## JSON -/

/-- The value of a whole number in a document: numbers beyond the signed range are doubles. -/
def ofInteger (n : Int) : Value :=
  if Int64.minValue.toInt ≤ n ∧ n ≤ Int64.maxValue.toInt then .number (.ofInt n)
  else .float (.ofInt n)

mutual

/-- The value of a document; `null` and objects become their compact text. -/
def ofJson : Json → Value
  | .null => .text Json.null.compact
  | .bool value => .bool value
  | .integer n => ofInteger n
  | .float x => .float x
  | .string chars => .text chars
  | .array items => .list (ofJsonItems items)
  | .object members => .text (Json.object members).compact

def ofJsonItems : List Json → List Value
  | [] => []
  | item :: rest => ofJson item :: ofJsonItems rest

end

/-- The value of the first kind that takes a document, lists apart: the kinds are tried in the
order in which values declare them, so a whole number beyond the signed range is a double. -/
def ofScalar? (json : Json) : Option Value :=
  json.bool?.map .bool <|> json.signed?.map .number <|> json.double?.map .float <|>
    json.string?.map .text

mutual

/-- The value of the first kind that takes a document; the last one takes arrays of documents that
are values themselves. No kind takes `null` or an object. -/
def ofPlainJson? : Json → Option Value
  | .array items => ofScalar? (.array items) <|> (ofPlainItems? items).map .list
  | json => ofScalar? json

def ofPlainItems? : List Json → Option (List Value)
  | [] => some []
  | item :: rest =>
    match ofPlainJson? item, ofPlainItems? rest with
    | some value, some values => some (value :: values)
    | _, _ => none

end

mutual

/-- The document of a value; a number that is not finite has none and becomes `null`. -/
def toJson : Value → Json
  | .bool value => .bool value
  | .number n => .integer n.toInt
  | .float x => if x.isFinite then .float x else .null
  | .text value => .string value
  | .list items => .array (toJsonItems items)

def toJsonItems : List Value → List Json
  | [] => []
  | item :: rest => toJson item :: toJsonItems rest

end

/-- Why a JSON text is no value. -/
inductive ReadError where
  | json (error : Json.Error)
  -- It holds `null` or an object.
  | noValue
  deriving DecidableEq, Repr

def ReadError.message : ReadError → String
  | .json error => error.message
  | .noValue => "data did not match any variant of untagged enum Value"

/-- Read a value straight from a JSON text. Whether the document is a value is decided before
the text behind it is looked at. -/
def read (text : String) : Except ReadError Value :=
  let chars := text.toList
  let report (fault : Json.Fault) : ReadError := .json (fault.toError chars)
  match Json.readFirst chars with
  | .error fault => .error (report fault)
  | .ok (json, rest) =>
    match ofPlainJson? json with
    | none => .error .noValue
    | some value =>
      match Json.expectEnd rest with
      | .error fault => .error (report fault)
      | .ok () => .ok value

end Value

end Phrasebook
