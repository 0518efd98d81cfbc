import Phrasebook.Table
import Phrasebook.Double.Basic

/-!
# JSON documents

The values of the data format in which phrases and settings are written. Whole numbers and
doubles are told apart: `1` and `1.0` are different documents. Members of an object are found
by name, the last of two equal names, and `Json.ofMembers` lists them in ascending order, so
that objects with the same members are the same document.
-/

namespace Phrasebook

inductive Json where
  | null
  | bool (value : Bool)
  -- A number without fraction and exponent that fits 64 bits.
  | integer (value : Int)
  | float (value : Double)
  | string (text : String)
  | array (items : List Json)
  | object (members : List (String × Json))
  deriving BEq, Inhabited

/-- The settings of a formatter: usually an object, but any document is allowed. -/
abbrev Settings := Json

namespace Json

def emptyObject : Json := .object []

/-- The object with these members in ascending order, the last of two equal names kept. -/
def ofMembers (members : Entries Json) : Json := .object members.ordered

def member? (name : String) : Json → Option Json
  | .object members => Entries.find? name members
  | _ => none

def item? (index : Nat) : Json → Option Json
  | .array items => items[index]?
  | _ => none

def bool? : Json → Option Bool
  | .bool value => some value
  | _ => none

/-- A whole number that fits 64 bits with its sign. -/
def signed? : Json → Option Int64
  | .integer value =>
    if Int64.minValue.toInt ≤ value ∧ value ≤ Int64.maxValue.toInt then some (.ofInt value)
    else none
  | _ => none

def string? : Json → Option String
  | .string text => some text
  | _ => none

def natural? : Json → Option Nat
  | .integer value => if 0 ≤ value then some value.toNat else none
  | _ => none

def double? : Json → Option Double
  | .integer value => some (.ofInt value)
  | .float value => some value
  | _ => none

def isObject : Json → Bool
  | .object _ => true
  | _ => false

def stringMember? (name : String) (json : Json) : Option String :=
  (json.member? name).bind string?

theorem stringMember?_eq_some_iff {json : Json} {name text : String} :
    json.stringMember? name = some text ↔ json.member? name = some (.string text) := by
  rw [stringMember?, Option.bind_eq_some_iff]
  constructor
  · rintro ⟨value, found, same⟩
    cases value <;> cases same
    exact found
  · intro found
    exact ⟨_, found, rfl⟩

/-- What kind of document it is, with its article. -/
def kindName : Json → String
  | .null => "null"
  | .bool _ => "a boolean"
  | .integer _ => "a number"
  | .float _ => "a number"
  | .string _ => "a string"
  | .array _ => "an array"
  | .object _ => "an object"

end Json

end Phrasebook
