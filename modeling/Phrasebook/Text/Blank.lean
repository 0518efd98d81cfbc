import Phrasebook.Text.CharSet.Basic

/-!
# Blank characters

The characters with the Unicode property White_Space, and the removal of blanks around a text.
-/

namespace Phrasebook.Text

def isBlank (c : Char) : Bool := CharSet.blank.contains c

/-- The text without the blanks at its two ends. -/
def trim (text : List Char) : List Char :=
  ((text.dropWhile isBlank).reverse.dropWhile isBlank).reverse

end Phrasebook.Text
