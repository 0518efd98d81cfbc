import Phrasebook.Json.Basic

/-!
# Templates

A phrase is either plain text or a template: literal text with slots in which values are put
when it is rendered. A template begins with literal text and goes on with slots that are each
followed by literal text, so it has exactly one literal fragment more than slots.
-/

namespace Phrasebook

/-- The formatter that a slot names, with the settings written in the slot. -/
structure Call where
  formatter : String
  settings : Option Settings
  deriving BEq

structure Slot where
  parameter : String
  -- The formatter that the value goes through; without one its plain text is put here.
  call : Option Call
  deriving BEq

/-- The text that stands for a parameter without value: its name in double braces. -/
def missText (parameter : String) : String := "\x7b\x7b" ++ parameter ++ "\x7d\x7d"

structure Template where
  opening : String
  -- The slots, each with the text behind it.
  slots : List (Slot × String)
  deriving BEq

namespace Template

/-- The literal texts in order. -/
def fragments (template : Template) : List String :=
  template.opening :: template.slots.map (·.2)

def parameters (template : Template) : List String :=
  template.slots.map (·.1.parameter)

/-- There is one fragment more than slots. -/
theorem length_fragments (template : Template) :
    template.fragments.length = template.slots.length + 1 := by
  simp [fragments]

end Template

inductive Phrase where
  | plain (text : String)
  | template (template : Template)
  deriving BEq

def Phrase.slotCount : Phrase → Nat
  | .plain _ => 0
  | .template parts => parts.slots.length

end Phrasebook
