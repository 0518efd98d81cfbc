import Phrasebook.Formatter.Basic
import Phrasebook.Formatter.Number
import Phrasebook.Text.Position

/-!
# The built-in formatters

| name                  | value  | settings                                                   |
|-----------------------|--------|------------------------------------------------------------|
| `percent`             | number | none                                                       |
| `number`              | number | `thousandsSeparator`, `fractionSeparator`, `fractionCount` |
| `currency`            | number | those of `number`, `symbol`, `symbolPlacement`             |
| `naturalNumber`       | number | those of `number`, `literals`                              |
| `femaleNaturalNumber` | number | the word for zero                                          |
| `maleNaturalNumber`   | number | the word for zero                                          |
| `plural`              | number | `"singular|plural"`, plain or under `forms`                |
| `naturalList`         | list   | `separator`, `finalSeparator`                              |

A value of another kind keeps its plain text.
-/

namespace Phrasebook

namespace Formatter

/-- One hundred times the number, with a percent sign. -/
def percent : Formatter := fun value _ _ =>
  match value.numeric? with
  | some x => (x.mul (.ofInt 100)).plainText ++ "%"
  | none => value.plainText ++ "%"

def number : Formatter := fun value settings _ =>
  match value.numeric? with
  | some x => (NumberStyle.ofSettings settings).format x
  | none => value.plainText

inductive SymbolPlacement where
  | hidden
  | before
  | behind
  deriving DecidableEq, Repr

/-- The placement that settings ask for: a word, or the number one for before, zero for nowhere
and any other for behind. -/
def SymbolPlacement.ofSettings (settings : Settings) : SymbolPlacement :=
  match settings.member? "symbolPlacement" with
  | some (.string word) =>
    if word = "before" then .before else if word = "after" then .behind else .hidden
  | some json =>
    match json.double? with
    | some x => if x = .ofInt 1 then .before else if x.isZero then .hidden else .behind
    | none => .hidden
  | none => .hidden

/-- The number as the formatter `number` of the scope writes it, with the symbol of a currency
before or behind it. -/
def currency : Formatter := fun value settings context =>
  let amount := context.format "number" value (some settings)
  let symbol := (settings.stringMember? "symbol").getD ""
  if symbol.isEmpty then amount
  else
    match SymbolPlacement.ofSettings settings with
    | .hidden => amount
    | .before => symbol ++ amount
    | .behind => amount ++ symbol

/-- The place of a value among words for numbers: whole numbers from zero on have one. -/
def wordIndex? : Value → Option Nat
  | .number n => if 0 ≤ n.toInt then some n.toInt.toNat else none
  | .float x =>
    match x.whole? with
    | some n => if x.isNegative && !x.isZero then none else some (min n (Nat.pow 2 63 - 1))
    | none => none
  | _ => none

/-- The word that settings have for a value; an empty one does not count. -/
def literal? (value : Value) (settings : Settings) : Option String := do
  let index ← wordIndex? value
  let literals ← settings.member? "literals"
  let word ← (← literals.item? index).string?
  if word.isEmpty then none else some word

/-- The word for a small number, and other numbers as the formatter `number` of the scope writes
them. -/
def naturalNumber : Formatter := fun value settings context =>
  match literal? value settings with
  | some word => word
  | none => context.format "number" value (some settings)

/-- A text given plainly as the settings or as a member of them. -/
def plainOrMember? (name : String) : Settings → Option String
  | .string text => some text
  | settings => settings.stringMember? name

/-- Settings with another word for zero put over them; settings whose words are no array stay as
they are. -/
def withZeroWord (zero : String) : Settings → Settings
  | .object members =>
    match (Entries.find? "literals" members).getD (.array []) with
    | .array words =>
      .merge (some (.object members))
        (some (.object [("literals", .array (.string zero :: words.drop 1))]))
    | _ => .object members
  | settings => settings

/-- The number as the formatter `naturalNumber` of the scope writes it, with a word of its own
for zero. -/
def genderedNaturalNumber : Formatter := fun value settings context =>
  let natural := context.settingsOf "naturalNumber"
  let derived :=
    match plainOrMember? "zero" settings with
    | some zero => withZeroWord zero natural
    | none => natural
  context.format "naturalNumber" value (some derived)

/-- The first of two forms for the number one, and the second for any other value. -/
def plural : Formatter := fun value settings _ =>
  match plainOrMember? "forms" settings with
  | none => value.plainText
  | some forms =>
    match Text.pieces '|' forms.toList with
    | [] => ""
    | singular :: others =>
      String.ofList (if value.isOne then singular else others.headD singular)

/-- Texts joined by a separator, the last two by another. -/
def joinNaturally (separator finalSeparator : String) : List String → String
  | [] => ""
  | [single] => single
  | [first, last] => first ++ finalSeparator ++ last
  | first :: rest => first ++ separator ++ joinNaturally separator finalSeparator rest

/-- The plain texts of the items of a list in a row. -/
def naturalList : Formatter := fun value settings _ =>
  match value.list? with
  | none => value.plainText
  | some items =>
    joinNaturally ((settings.stringMember? "separator").getD ", ")
      ((settings.stringMember? "finalSeparator").getD " and ") (items.map Value.plainText)

end Formatter

def FormatterTable.builtIn : FormatterTable := .ofEntries
  [("percent", Formatter.percent),
   ("number", Formatter.number),
   ("currency", Formatter.currency),
   ("naturalNumber", Formatter.naturalNumber),
   ("femaleNaturalNumber", Formatter.genderedNaturalNumber),
   ("maleNaturalNumber", Formatter.genderedNaturalNumber),
   ("plural", Formatter.plural),
   ("naturalList", Formatter.naturalList)]

def Scope.builtIn : Scope := ⟨.builtIn, .builtIn⟩

end Phrasebook
