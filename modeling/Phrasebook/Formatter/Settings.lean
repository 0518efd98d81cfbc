import Phrasebook.Json.Basic

/-!
# Settings of formatters

Each formatter has settings of its own, kept in a table by the formatter's name, and a slot or a
caller may put others over them. Two objects are combined member by member, the upper one first;
any other upper document takes the place of the lower one.
-/

namespace Phrasebook

abbrev SettingsTable := Table Settings

namespace Settings

/-- The settings `upper` put over the settings `lower`. Members of objects that are themselves
objects are replaced, not combined. -/
def merge (lower upper : Option Settings) : Settings :=
  match lower, upper with
  | some (.object below), some (.object above) => Json.ofMembers (below ++ above)
  | _, some above => above
  | some below, none => below
  | none, none => .emptyObject

/-- A member of settings put over others is the upper one of its name, if there is one. -/
theorem member?_merge (below above : List (String × Json)) (name : String) :
    (merge (some (.object below)) (some (.object above))).member? name =
      (Json.member? name (.object above)).or (Json.member? name (.object below)) := by
  show (Table.ofEntries (below ++ above)).get? name = _
  rw [Table.get?_ofEntries, Entries.find?_append]
  rfl

end Settings

namespace SettingsTable

/-- The words for the numbers from zero on. -/
def numberWords : List String :=
  ["no", "one", "two", "three", "four", "five", "six", "seven", "eight", "nine"]

/-- The settings of the built-in formatters. -/
def builtIn : SettingsTable := .ofEntries
  [("number", Json.ofMembers
      [("thousandsSeparator", .string ","), ("fractionSeparator", .string "."),
       ("fractionCount", .integer 2)]),
   ("currency", Json.ofMembers
      [("symbol", .string "$"), ("symbolPlacement", .integer 1), ("fractionCount", .integer 2)]),
   ("naturalNumber", Json.ofMembers
      [("literals", .array (numberWords.map .string)), ("fractionCount", .integer 0)]),
   ("femaleNaturalNumber", .string "no"),
   ("maleNaturalNumber", .string "no"),
   ("naturalList", Json.ofMembers
      [("separator", .string ", "), ("finalSeparator", .string " and ")])]

/-- The table that an object of settings by name describes. -/
def ofJson? : Json → Option SettingsTable
  | .object members => some (.ofEntries members)
  | _ => none

end SettingsTable

end Phrasebook
