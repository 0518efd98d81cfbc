import Phrasebook.Formatter.Settings
import Phrasebook.Text.Quoted
import Phrasebook.Value

/-!
# Formatters

A formatter turns a value and settings into text. It never fails, and it may use the other
formatters of the scope it runs in. A scope holds formatters and their settings by name; a name
without formatter leaves the plain text of the value. Formatters may call each other in circles,
so a scope bounds how deep the calls nest, and a call below the bound leaves the plain text.
-/

namespace Phrasebook

/-- What a formatter can use besides its value and its settings. -/
structure Context where
  formatters : List String
  settings : SettingsTable
  -- Run the formatter with a name on a value, with exactly these settings.
  call : String → Value → Settings → String

namespace Context

/-- Run the formatter with a name on a value, with its own settings and `upper` put over them. -/
def format (context : Context) (name : String) (value : Value)
    (upper : Option Settings) : String :=
  context.call name value (.merge (context.settings.get? name) upper)

/-- The settings of a formatter; an empty object if it has none. -/
def settingsOf (context : Context) (name : String) : Settings :=
  (context.settings.get? name).getD .emptyObject

end Context

abbrev Formatter := Value → Settings → Context → String

abbrev FormatterTable := Table Formatter

/-- The names of the formatters of a table, as they are listed for inspection. -/
def FormatterTable.listing (formatters : FormatterTable) : String :=
  "FormatterRegistry \x7b formatters: [" ++
    String.intercalate ", " (formatters.names.map Text.quoted) ++ "] \x7d"

/-- The formatters and the settings that a phrase is rendered with. -/
structure Scope where
  formatters : FormatterTable
  settings : SettingsTable

namespace Scope

/-- How deep calls of formatters nest. The bound makes rendering a function and is no part of what
formatters are meant to do: built-in formatters nest three deep at most, and only own formatters
that call each other, or themselves, deeper than this show something else than they would without
a bound. -/
def nesting : Nat := 4096

/-- Run a formatter with exactly these settings; its own calls nest `depth` deep at most, and a call
below that leaves the plain text. Starting from `nesting`, only own formatters get there. -/
def callWithin (scope : Scope) : Nat → String → Value → Settings → String
  | 0, _, value, _ => value.plainText
  | depth + 1, name, value, settings =>
    match scope.formatters.get? name with
    | some formatter =>
      formatter value settings
        ⟨scope.formatters.names, scope.settings, scope.callWithin depth⟩
    | none => value.plainText

/-- What a formatter sees of a scope when its own calls nest `depth` deep at most. -/
def contextWithin (scope : Scope) (depth : Nat) : Context :=
  ⟨scope.formatters.names, scope.settings, scope.callWithin depth⟩

/-- What is seen of a scope from outside. -/
def context (scope : Scope) : Context := scope.contextWithin nesting

def call (scope : Scope) (name : String) (value : Value) (settings : Settings) : String :=
  scope.context.call name value settings

def format (scope : Scope) (name : String) (value : Value)
    (upper : Option Settings) : String :=
  scope.context.format name value upper

def settingsOf (scope : Scope) (name : String) : Settings := scope.context.settingsOf name

variable {scope : Scope} {name : String}

/-- A formatter that is called by its name runs with its settings merged, and one level is left
less for its own calls. -/
theorem format_contextWithin_registered {formatter : Formatter}
    (registered : scope.formatters.get? name = some formatter) (depth : Nat) (value : Value)
    (upper : Option Settings) :
    (scope.contextWithin (depth + 1)).format name value upper =
      formatter value (.merge (scope.settings.get? name) upper) (scope.contextWithin depth) := by
  show scope.callWithin (depth + 1) name value _ = _
  rw [callWithin, registered]
  rfl

theorem format_registered {formatter : Formatter}
    (registered : scope.formatters.get? name = some formatter) (value : Value)
    (upper : Option Settings) :
    scope.format name value upper = formatter value (.merge (scope.settings.get? name) upper)
      (scope.contextWithin (nesting - 1)) :=
  format_contextWithin_registered registered (nesting - 1) value upper

theorem format_contextWithin_absent (absent : scope.formatters.get? name = none) (depth : Nat)
    (value : Value) (upper : Option Settings) :
    (scope.contextWithin depth).format name value upper = value.plainText := by
  cases depth with
  | zero => rfl
  | succ depth =>
      show scope.callWithin (depth + 1) name value _ = _
      rw [callWithin, absent]

/-- The scope with the formatters and the settings of another put over its own. -/
def overlay (scope upper : Scope) : Scope :=
  ⟨scope.formatters.overlay upper.formatters, scope.settings.overlay upper.settings⟩

def register (scope : Scope) (name : String) (formatter : Formatter) : Scope :=
  { scope with formatters := scope.formatters.insert name formatter }

def set (scope : Scope) (name : String) (settings : Settings) : Scope :=
  { scope with settings := scope.settings.insert name settings }

end Scope

end Phrasebook
