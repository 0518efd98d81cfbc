import Phrasebook.Formatter.Basic
import Phrasebook.Template.Basic

/-!
# Rendering phrases

A phrase is rendered by putting a text into each slot and leaving everything else as it is.
Rendering never fails: a parameter without value shows as its name in double braces, and a
formatter that is not in scope leaves the plain text of the value.
-/

namespace Phrasebook

abbrev Params := Table Value

/-- The text that is put into a slot. -/
def Slot.render (scope : Scope) (params : Params) (slot : Slot) : String :=
  match params.get? slot.parameter with
  | none => missText slot.parameter
  | some value =>
    match slot.call with
    | none => value.plainText
    | some call =>
      if scope.formatters.contains call.formatter then
        scope.format call.formatter value call.settings
      else value.plainText

def Template.render (scope : Scope) (params : Params) (template : Template) : String :=
  template.opening ++
    String.join (template.slots.map fun slot => slot.1.render scope params ++ slot.2)

def Phrase.render (scope : Scope) (params : Params) : Phrase → String
  | .plain text => text
  | .template parts => parts.render scope params

end Phrasebook
