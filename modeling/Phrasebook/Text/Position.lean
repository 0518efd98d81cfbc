/-!
# Places in a text

A place in a text is named either by the part of the text that begins there, or by the number of
a line and of a character in it. `Position.after` goes from the first to the second and `seek`
back. Lines end with their newline; lines and columns count from 1.
-/

namespace Phrasebook

/-- A line and a column, both counted from 1. -/
structure Position where
  line : Nat
  column : Nat
  deriving DecidableEq, Repr

namespace Position

def start : Position := ⟨1, 1⟩

/-- The position behind one more character: a newline begins the next line. -/
def advance (position : Position) (c : Char) : Position :=
  if c = '\n' then ⟨position.line + 1, 1⟩ else ⟨position.line, position.column + 1⟩

/-- The position behind the whole of `passed`. -/
def after (passed : List Char) : Position := passed.foldl advance start

/-- The position in `text` at which `rest`, an ending of it, begins. -/
def ofRest (text rest : List Char) : Position := after (text.take (text.length - rest.length))

end Position

namespace Text

/-- The number of bytes of a text in UTF-8. -/
def byteLength : List Char → Nat
  | [] => 0
  | c :: rest => c.utf8Size + byteLength rest

/-- What is left of a text behind its first `count` lines. -/
def dropLines : Nat → List Char → List Char
  | 0, text => text
  | _ + 1, [] => []
  | count + 1, c :: rest => if c = '\n' then dropLines count rest else dropLines (count + 1) rest

/-- The rest of a text from a line and column on. A column beyond the end of its line counts on
into the lines below, and no place lies beyond the end of the text. -/
def seek (text : List Char) (position : Position) : List Char :=
  (dropLines (position.line - 1) text).drop (position.column - 1)

/-- The byte at which a position is marked: the bytes of the lines above and one for each column
passed, and never beyond the last byte of the text. -/
def markOffset (text : List Char) (position : Position) : Nat :=
  let above := byteLength text - byteLength (dropLines (position.line - 1) text)
  min (above + (position.column - 1)) (byteLength text - 1)

/-- Whether `mark` occurs in a text. -/
def occurs (mark : List Char) : List Char → Bool
  | [] => mark.isEmpty
  | c :: rest => mark.isPrefixOf (c :: rest) || occurs mark rest

/-- The pieces of a text between the occurrences of a character; a text without it is one
piece. -/
def pieces (mark : Char) : List Char → List (List Char)
  | [] => [[]]
  | c :: rest =>
    if c = mark then [] :: pieces mark rest
    else
      match pieces mark rest with
      | [] => [[c]]
      | first :: others => (c :: first) :: others

/-- The parts of a text before and behind the first occurrence of a character. -/
def cut? (mark : Char) : List Char → Option (List Char × List Char)
  | [] => none
  | c :: rest =>
    if c = mark then some ([], rest)
    else (cut? mark rest).map fun parts => (c :: parts.1, parts.2)

end Text

end Phrasebook
