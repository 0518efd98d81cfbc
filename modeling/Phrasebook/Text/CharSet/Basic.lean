/-!
# Sets of characters

A set of characters is written as the runs of its code points. The tables of the properties that
the library needs are such sets; a few of them, and the small ones, stand here.
-/

namespace Phrasebook.Text

/-- A set of characters: the first and last code points of its runs, ascending. -/
structure CharSet where
  runs : List (Nat × Nat)
  deriving DecidableEq, Repr

namespace CharSet

def contains (set : CharSet) (c : Char) : Bool :=
  set.runs.any fun run => run.1 ≤ c.toNat && c.toNat ≤ run.2

/-- The characters with the property White_Space. -/
def blank : CharSet :=
  ⟨[(0x0009, 0x000D), (0x0020, 0x0020), (0x0085, 0x0085), (0x00A0, 0x00A0), (0x1680, 0x1680),
    (0x2000, 0x200A), (0x2028, 0x2029), (0x202F, 0x202F), (0x205F, 0x205F), (0x3000, 0x3000)]⟩

/-- The characters with the property Default_Ignorable_Code_Point. -/
def ignorable : CharSet :=
  ⟨[(0x00AD, 0x00AD), (0x034F, 0x034F), (0x061C, 0x061C), (0x115F, 0x1160), (0x17B4, 0x17B5),
    (0x180B, 0x180F), (0x200B, 0x200F), (0x202A, 0x202E), (0x2060, 0x206F), (0x3164, 0x3164),
    (0xFE00, 0xFE0F), (0xFEFF, 0xFEFF), (0xFFA0, 0xFFA0), (0xFFF0, 0xFFF8), (0x1BCA0, 0x1BCA3),
    (0x1D173, 0x1D17A), (0xE0000, 0xE0FFF)]⟩

/-- The vowels and the closing consonants that Hangul syllables are composed of. -/
def syllableEnds : CharSet := ⟨[(0x1160, 0x11FF), (0xD7B0, 0xD7C6), (0xD7CB, 0xD7FB)]⟩

/-- The sound marks of halfwidth kana: letters, although they extend the letter before them. -/
def soundMarks : CharSet := ⟨[(0xFF9E, 0xFF9F)]⟩

/-- Signs that are written around or above what follows them: the marks of Arabic and Syriac
numbers and abbreviations that have no column, the letters of Indic scripts that are drawn over the
next letter, and the caret of Devanagari. -/
def prefixed : CharSet :=
  ⟨[(0x0605, 0x0605), (0x070F, 0x070F), (0x0890, 0x0891), (0x08E2, 0x08E2), (0x0D4E, 0x0D4E),
    (0xA8FA, 0xA8FA), (0x111C2, 0x111C3), (0x113D1, 0x113D1), (0x1193F, 0x1193F),
    (0x11941, 0x11941), (0x11A84, 0x11A89), (0x11D46, 0x11D46), (0x11F02, 0x11F02)]⟩

/-- The format characters across which Arabic letters join. -/
def transparentControls : CharSet :=
  ⟨[(0x00AD, 0x00AD), (0x061C, 0x061C), (0x070F, 0x070F), (0x200B, 0x200B), (0x200E, 0x200F),
    (0x202A, 0x202E), (0x2060, 0x2064), (0x206A, 0x206F), (0xFEFF, 0xFEFF), (0x1BCA0, 0x1BCA3),
    (0x1D173, 0x1D17A), (0xE0001, 0xE0001), (0xE0020, 0xE007F)]⟩

/-- The ignorable marks, which stand inside of a ligature without breaking it. -/
def ligatureMarks : CharSet :=
  ⟨[(0x034F, 0x034F), (0x17B4, 0x17B5), (0x180B, 0x180D), (0x180F, 0x180F), (0xFE00, 0xFE0F),
    (0xE0100, 0xE01EF)]⟩

def alefs : CharSet :=
  ⟨[(0x0622, 0x0623), (0x0625, 0x0625), (0x0627, 0x0627), (0x0671, 0x0673), (0x0675, 0x0675),
    (0x0773, 0x0774), (0x0870, 0x0882)]⟩

def lams : CharSet :=
  ⟨[(0x0644, 0x0644), (0x06B5, 0x06B8), (0x076A, 0x076A), (0x08A6, 0x08A6), (0x08C7, 0x08C7)]⟩

/-- The Khmer letters whose subscript form takes no column. -/
def subscriptKhmer : CharSet :=
  ⟨[(0x1780, 0x1782), (0x1784, 0x1787), (0x1789, 0x178C), (0x178E, 0x1793), (0x1795, 0x1798),
    (0x179B, 0x179D), (0x17A0, 0x17A0), (0x17A2, 0x17A2), (0x17A7, 0x17A7), (0x17AB, 0x17AC),
    (0x17AF, 0x17AF)]⟩

def tifinagh : CharSet := ⟨[(0x2D31, 0x2D65), (0x2D6F, 0x2D6F)]⟩

/-- The first tone letters of a Lisu pair. -/
def lisuTones : CharSet := ⟨[(0xA4F8, 0xA4FB)]⟩

/-- The second tone letters of a Lisu pair. -/
def lisuEndings : CharSet := ⟨[(0xA4FC, 0xA4FD)]⟩

def curvedQuotes : CharSet := ⟨[(0x2018, 0x2019), (0x201C, 0x201D)]⟩

/-- The letters that name regions; two of them are a flag. -/
def regionLetters : CharSet := ⟨[(0x1F1E6, 0x1F1FF)]⟩

/-- The skin tones, which change the picture before them. -/
def skinTones : CharSet := ⟨[(0x1F3FB, 0x1F3FF)]⟩

/-- The letters of tags, which spell the name of a flag. -/
def tagLetters : CharSet := ⟨[(0xE0061, 0xE007A)]⟩

def tagDigits : CharSet := ⟨[(0xE0030, 0xE0039)]⟩

/-- The framed ideographs, which stay wide when a selector asks for text. -/
def framedIdeographs : CharSet := ⟨[(0x1F200, 0x1F2FF)]⟩

end CharSet

end Phrasebook.Text
