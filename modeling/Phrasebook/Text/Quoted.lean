import Phrasebook.Text.CharSet.Unprintable
import Phrasebook.Text.Width.Basic

/-!
# Quoted texts

A text between quotation marks, for inspection: what would end or break the quotation, what is
drawn with the character before it and what shows nothing by itself is written by an escape.
-/

namespace Phrasebook.Text

/-- A character by its code point. -/
def codePointEscape (c : Char) : List Char :=
  "\\u\x7b".toList ++ Nat.toDigits 16 c.toNat ++ ['\x7d']

/-- A character between quotation marks. -/
def quotedChar (c : Char) : List Char :=
  if c = '"' then ['\\', '"']
  else if c = '\\' then ['\\', '\\']
  else if c = '\n' then ['\\', 'n']
  else if c = '\r' then ['\\', 'r']
  else if c = '\t' then ['\\', 't']
  else if c.toNat = 0 then ['\\', '0']
  else if isCombining c || CharSet.unprintable.contains c then codePointEscape c
  else [c]

/-- A text between quotation marks. -/
def quoted (text : String) : String :=
  String.ofList ('"' :: (text.toList.flatMap quotedChar ++ ['"']))

end Phrasebook.Text
