import Phrasebook.Text.CharSet.Emoji
import Phrasebook.Text.Width.Basic

/-!
# What a character is drawn together with

Some characters are drawn as one with those after them: the letters of a ligature, a picture and
the selector or the skin tone after it, pictures that are joined, the letters of a flag. A juncture
is as much of the text after a character as decides how many columns the character adds to it.
-/

namespace Phrasebook.Text

/-- A character that asks for one of the two forms of the character before it. -/
inductive Selector where
  | wide
  | plain
  | picture
  deriving DecidableEq, Repr

def Selector.ofChar? (c : Char) : Option Selector :=
  if c = '\uFE01' then some .wide
  else if c = '\uFE0E' then some .plain
  else if c = '\uFE0F' then some .picture
  else none

/-- The beginning of a text, as far as a character before it can join it. A letter is `joined` when
a joiner stands before it. -/
inductive Opening where
  | other
  | lineFeed
  | alef
  | lamed (joined : Bool)
  | ya (joined : Bool)
  | vowelYa
  | tifinagh (joined : Bool)
  | boundTifinagh
  | lisuEnding
  | orkhonI (joined : Bool)
  | subscriptKhmer
  | vowelE
  | vowelAi
  | skinTone
  | region
  | regions
  | picture
  | joinedPicture
  | joinedKey
  | joinedRegion
  -- An even number of region letters before a joined picture.
  | joinedRegionsEven
  -- An odd number of region letters, three at least, before a joined picture.
  | joinedRegionsOdd
  -- The end of the name of a flag, before a joined picture: so many letters of tags, and the
  -- closing tag.
  | flagLetters (count : Nat)
  -- So many digits of tags, and letters and the closing tag after them.
  | flagDigits (count : Nat)
  deriving DecidableEq, Repr

namespace Opening

/-- The opening that a character is by itself. -/
def ofChar (c : Char) : Opening :=
  if c = '\n' then .lineFeed
  else if c ≤ '\u00A0' then .other
  else if CharSet.alefs.contains c then .alef
  else if c = '\u05DC' then .lamed false
  else if c = '\u1A10' then .ya false
  else if CharSet.tifinagh.contains c then .tifinagh false
  else if CharSet.lisuEndings.contains c then .lisuEnding
  else if c.toNat = 0x10C03 then .orkhonI false
  else if CharSet.subscriptKhmer.contains c then .subscriptKhmer
  else if c.toNat = 0x16D67 then .vowelE
  else if c.toNat = 0x16D68 then .vowelAi
  else if CharSet.skinTones.contains c then .skinTone
  else if CharSet.regionLetters.contains c then .region
  else if CharSet.pictures.contains c then .picture
  else .other

/-- Whether a ligature is formed with the opening even if a selector stands before it. -/
def isLigature : Opening → Bool
  | .alef | .lamed _ | .ya _ | .vowelYa | .tifinagh _ | .boundTifinagh | .lisuEnding
  | .orkhonI _ | .subscriptKhmer => true
  | _ => false

/-- Whether ignorable marks and joiners may stand inside of the ligature. -/
def admitsJoiner (opening : Opening) : Bool := opening.isLigature && opening != .alef

/-- The opening with a joiner before it. -/
def join : Opening → Opening
  | .lamed _ => .lamed true
  | .ya _ => .ya true
  | .tifinagh _ => .tifinagh true
  | .orkhonI _ => .orkhonI true
  | opening => opening

/-- Whether the opening waits for the picture that another picture is joined to. -/
def awaitsPicture (opening : Opening) : Bool := opening = .joinedPicture || opening = .joinedKey

/-- The columns that a letter adds if it is drawn as one with the letters after it, and the
opening that it is with them. A carriage return and the line feed after it are one, too. -/
def ligature? (c : Char) : Opening → Option (Int × Opening)
  | .lineFeed => if c = '\r' then some (0, .other) else none
  | .alef =>
    if CharSet.lams.contains c then some (0, .other)
    else if isTransparent c then some (0, .alef) else none
  | .lamed true => if c = '\u05D0' then some (0, .other) else none
  | .ya true => if c = '\u1A17' then some (0, .vowelYa) else none
  | .vowelYa => if c = '\u1A15' then some (0, .other) else none
  | .tifinagh joined =>
    if c = '\u2D7F' then some (1, .boundTifinagh)
    else if joined && CharSet.tifinagh.contains c then some (0, .other) else none
  | .boundTifinagh => if CharSet.tifinagh.contains c then some (-1, .other) else none
  | .lisuEnding => if CharSet.lisuTones.contains c then some (0, .other) else none
  | .orkhonI true => if c.toNat = 0x10C32 then some (0, .other) else none
  | .subscriptKhmer => if c = '\u17D2' then some (-1, .other) else none
  | .vowelE =>
    if c.toNat = 0x16D63 || c.toNat = 0x16D69 then some (0, .other)
    else if c.toNat = 0x16D67 then some (0, .vowelAi)
    else if c.toNat = 0x16D68 then some (1, .vowelE) else none
  | .vowelAi => if c.toNat = 0x16D63 then some (0, .other) else none
  | _ => none

/-- The columns that a character adds to a joined picture after it. A flag of two region letters
takes two columns, and so does one of tags: a black flag and the letters and digits of a name. -/
def joinPicture? (c : Char) : Option (Int × Opening) :=
  if c = '\u20E3' then some (0, .joinedKey)
  else if CharSet.regionLetters.contains c then some (1, .joinedRegion)
  else if CharSet.skinTones.contains c then some (0, .skinTone)
  else if c.toNat = 0xE007F then some (0, .flagLetters 0)
  else if CharSet.pictures.contains c then some (0, .picture)
  else none

/-- The columns that a character of a flag adds to the rest of the flag: a name has at most six
letters, or at most four and up to three digits before them. -/
def flag? (c : Char) : Opening → Option (Int × Opening)
  | .flagLetters count =>
    if count < 6 && CharSet.tagLetters.contains c then some (0, .flagLetters (count + 1))
    else if count < 5 && CharSet.tagDigits.contains c then some (0, .flagDigits 1)
    else if 3 ≤ count && c.toNat = 0x1F3F4 then some (0, .picture)
    else none
  | .flagDigits count =>
    if count < 3 && CharSet.tagDigits.contains c then some (0, .flagDigits (count + 1))
    else if count = 3 && c.toNat = 0x1F3F4 then some (0, .picture)
    else none
  | _ => none

/-- The columns that a character adds if it is drawn as one with the pictures after it, and the
opening that it is with them. -/
def picture? (c : Char) (opening : Opening) : Option (Int × Opening) :=
  let isRegion := CharSet.regionLetters.contains c
  let isJoiner := c = '\u200D'
  match opening with
  | .skinTone =>
    if CharSet.skinned.contains c then some (0, .picture)
    else if isJoiner then some (0, .joinedPicture) else none
  | .region => if isRegion then some (1, .regions) else none
  | .regions =>
    if isRegion then some (1, .regions)
    else if isJoiner then some (0, .joinedPicture) else none
  | .picture => if isJoiner then some (0, .joinedPicture) else none
  | .joinedPicture => joinPicture? c
  | .joinedRegion => if isRegion then some (-1, .joinedRegionsEven) else none
  | .joinedRegionsEven =>
    if isRegion then some (3, .joinedRegionsOdd)
    else if isJoiner then some (0, .joinedPicture) else none
  | .joinedRegionsOdd =>
    if isRegion then some (-1, .joinedRegionsEven)
    else if isJoiner then some (0, .joinedPicture) else none
  | opening => flag? c opening

/-- The columns that a character adds to an opening, and the opening that it is with it. -/
def precede (c : Char) (opening : Opening) : Int × Opening :=
  if opening.admitsJoiner && c = '\u200D' then (0, opening.join)
  else if opening.admitsJoiner && CharSet.ligatureMarks.contains c then (0, opening)
  else
    match ligature? c opening with
    | some drawn => drawn
    | none => (picture? c opening).getD (charWidth c, ofChar c)

end Opening

/-- What decides about the columns of the character before a text: the beginning of the text, and
the selector that stands before that beginning. -/
structure Juncture where
  opening : Opening
  selector : Option Selector
  deriving DecidableEq, Repr

namespace Juncture

/-- The juncture at the end of a text. -/
def ending : Juncture := ⟨.other, none⟩

/-- The opening that counts where no character takes the form that the juncture asks for: only a
ligature outlasts a selector. -/
def released (juncture : Juncture) : Opening :=
  if juncture.selector = none || juncture.opening.isLigature then juncture.opening else .other

/-- A selector before an opening. A joined picture goes on waiting if a picture is asked for. -/
def select (selector : Selector) (opening : Opening) : Juncture :=
  if opening.isLigature || (selector = .picture && opening.awaitsPicture) then
    ⟨opening, some selector⟩
  else ⟨.other, some selector⟩

/-- The columns that a character adds in the form that the juncture asks for, and the juncture that
it makes, if the character has that form. -/
def selected? (c : Char) (juncture : Juncture) : Option (Int × Juncture) :=
  match juncture.selector with
  | some .wide => if CharSet.curvedQuotes.contains c then some (2, ending) else none
  | some .plain =>
    if CharSet.twofold.contains c && CharSet.pictures.contains c
        && !CharSet.framedIdeographs.contains c then some (1, ending)
    else none
  | some .picture =>
    if CharSet.twofold.contains c then
      some (if juncture.opening.awaitsPicture then 0 else 2, ⟨.picture, none⟩)
    else none
  | none => none

/-- The columns that a character adds to the text behind a juncture, and the juncture before it. -/
def precede (c : Char) (juncture : Juncture) : Int × Juncture :=
  match selected? c juncture with
  | some drawn => drawn
  | none =>
    match Selector.ofChar? c with
    | some selector => (0, select selector juncture.released)
    | none =>
      let (columns, opening) := Opening.precede c juncture.released
      (columns, ⟨opening, none⟩)

/-- The number of columns of a text, and the juncture before it. -/
def ofText (text : List Char) : Int × Juncture :=
  text.foldr (fun c (columns, juncture) =>
    let (more, juncture) := precede c juncture
    (columns + more, juncture)) (0, ending)

/-- A printable ASCII character takes one column and joins nothing. -/
theorem precede_ascii (c : Char) (low : ' ' ≤ c) (high : c ≤ '~') :
    precede c ending = (1, ending) := by
  have nonBreaking : c ≤ '\u00A0' := Char.le_trans high (by decide)
  have apart (x : Char) (above : '~' < x) : c ≠ x := fun same =>
    absurd (same ▸ high) (Char.not_le.mpr above)
  have notFeed : c ≠ '\n' := fun same => absurd (same ▸ low) (by decide)
  have noSelector : Selector.ofChar? c = none := by
    simp [Selector.ofChar?, apart '\uFE01' (by decide), apart '\uFE0E' (by decide),
      apart '\uFE0F' (by decide)]
  simp [precede, ending, selected?, noSelector, released, Opening.precede, Opening.admitsJoiner,
    Opening.isLigature, Opening.ligature?, Opening.picture?, Opening.flag?, Opening.ofChar,
    charWidth, nonBreaking, notFeed]

/-- Printable ASCII characters add one column each. -/
theorem ofText_ascii (text : List Char) (ascii : ∀ c ∈ text, ' ' ≤ c ∧ c ≤ '~') :
    ofText text = ((text.length : Int), ending) := by
  induction text with
  | nil => rfl
  | cons c rest ih =>
    have tail := ih fun d member => ascii d (List.mem_cons_of_mem c member)
    have head := ascii c List.mem_cons_self
    rw [ofText, List.foldr_cons, ← ofText, tail]
    simp [precede_ascii c head.1 head.2]

end Juncture

/-- The number of columns of a text. -/
def width (text : String) : Nat := (Juncture.ofText text.toList).1.toNat

/-- A text of printable ASCII characters is as wide as it is long. -/
theorem width_ascii (text : String) (ascii : ∀ c ∈ text.toList, ' ' ≤ c ∧ c ≤ '~') :
    width text = text.toList.length := by
  simp [width, Juncture.ofText_ascii text.toList ascii]

end Phrasebook.Text
