import Phrasebook.Text.CharSet.Mark
import Phrasebook.Text.CharSet.Wide

/-!
# Widths of characters

How many columns a character takes where every column is as wide as a Latin letter: characters of
the East Asian scripts and emoji take two, and what is drawn over another character takes none.
-/

namespace Phrasebook.Text

/-- Whether a character is drawn with the one before it. -/
def isCombining (c : Char) : Bool :=
  CharSet.marks.contains c || CharSet.spacingExtenders.contains c

/-- Whether a character takes no column. Two characters of these kinds take some all the same: the
filler that stands for an opening consonant of Hangul, and the joiner of Tifinagh. -/
def isHollow (c : Char) : Bool :=
  (CharSet.ignorable.contains c || isCombining c || CharSet.soundMarks.contains c
    || CharSet.syllableEnds.contains c || CharSet.prefixed.contains c)
    && c != '\u115F' && c != '\u2D7F'

/-- The number of columns of a character that stands alone. Two signs of Khmer are drawn as
several letters. -/
def charWidth (c : Char) : Nat :=
  if c ≤ '\u00A0' then 1
  else if isHollow c then 0
  else if CharSet.wide.contains c || c = '\u115F' || c = '\u17A4' then 2
  else if c = '\u17D8' then 3
  else 1

/-- Whether Arabic letters join across a character. -/
def isTransparent (c : Char) : Bool :=
  isHollow c && (CharSet.marks.contains c || CharSet.transparentControls.contains c)

end Phrasebook.Text
