import Phrasebook.Double.Text
import Phrasebook.Json.Basic

/-!
# Writing JSON text

Documents are written compactly, without blanks, or indented by two blanks a level. Members are
written in the order in which the object lists them. In strings only the quotation mark, the
backslash and the control characters are escaped.
-/

namespace Phrasebook.Json

def hexDigit (n : Nat) : Char := Nat.digitChar n

def escapeChar (c : Char) : List Char :=
  if c = '"' then ['\\', '"']
  else if c = '\\' then ['\\', '\\']
  else if c = '\x08' then ['\\', 'b']
  else if c = '\x0c' then ['\\', 'f']
  else if c = '\n' then ['\\', 'n']
  else if c = '\r' then ['\\', 'r']
  else if c = '\t' then ['\\', 't']
  else if c.toNat < 0x20 then
    ['\\', 'u', '0', '0', hexDigit (c.toNat / 16), hexDigit (c.toNat % 16)]
  else [c]

def quote (text : String) : List Char := '"' :: (text.toList.flatMap escapeChar ++ ['"'])

/-- A number that is not whole; one that is not finite has no text of its own. -/
def floatText (x : Double) : List Char := (x.scientificText?.getD "null").toList

def integerText (n : Int) : List Char :=
  Double.signText (decide (n < 0)) ++ Nat.toDigits 10 n.natAbs

mutual

def compactChars : Json → List Char
  | .null => "null".toList
  | .bool true => "true".toList
  | .bool false => "false".toList
  | .integer n => integerText n
  | .float x => floatText x
  | .string text => quote text
  | .array items => '[' :: (compactItems items ++ [']'])
  | .object members => '{' :: (compactMembers members ++ ['}'])

def compactItems : List Json → List Char
  | [] => []
  | [item] => compactChars item
  | item :: rest => compactChars item ++ ',' :: compactItems rest

def compactMembers : List (String × Json) → List Char
  | [] => []
  | [(name, value)] => quote name ++ ':' :: compactChars value
  | (name, value) :: rest => quote name ++ ':' :: (compactChars value ++ ',' :: compactMembers rest)

end

/-- A new line, indented by two blanks a level. -/
def newLine (level : Nat) : List Char := '\n' :: List.replicate (2 * level) ' '

mutual

/-- The indented text of a document at a level. -/
def indentedChars (level : Nat) : Json → List Char
  | .array (item :: rest) =>
    '[' :: (indentedItems (level + 1) (item :: rest) ++ newLine level ++ [']'])
  | .object (member :: rest) =>
    '{' :: (indentedMembers (level + 1) (member :: rest) ++ newLine level ++ ['}'])
  | json => compactChars json

def indentedItems (level : Nat) : List Json → List Char
  | [] => []
  | [item] => newLine level ++ indentedChars level item
  | item :: rest =>
    newLine level ++ indentedChars level item ++ ',' :: indentedItems level rest

def indentedMembers (level : Nat) : List (String × Json) → List Char
  | [] => []
  | [(name, value)] => newLine level ++ quote name ++ ':' :: ' ' :: indentedChars level value
  | (name, value) :: rest =>
    newLine level ++ quote name ++ ':' :: ' ' ::
      (indentedChars level value ++ ',' :: indentedMembers level rest)

end

/-- The text of a document without blanks. -/
def compact (json : Json) : String := String.ofList (compactChars json)

/-- The text of a document on indented lines; an empty array or object stays on one. -/
def indented (json : Json) : String := String.ofList (indentedChars 0 json)

end Phrasebook.Json
