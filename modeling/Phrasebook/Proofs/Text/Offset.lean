import Phrasebook.Proofs.Text.Place
import Mathlib

/-!
# Byte offsets of positions

Going from a position to a byte offset and back by counting bytes. Here every part of a text is
taken at an offset, which fails if the text is shorter or a character would be cut (`sliceFrom?`,
`sliceTo?`). It never does: the offset of a position is that of the place which `seek` finds
(`offset?_eq`), and what is counted in front of an ending is its position (`ofRest?_eq`). So the
position of a place leads back to its offset (`offset?_after`).
-/

namespace Phrasebook

namespace Text

theorem byteLength_toList (text : String) : byteLength text.toList = text.utf8ByteSize := by
  rw [← String.utf8Len_toList]
  induction text.toList with
  | nil => rfl
  | cons c rest ih => rw [byteLength, String.utf8Len_cons, ih, Nat.add_comm]

/-! ## Slices -/

/-- The part of a text from a byte offset on. There is none if the text is shorter or the offset
lies within a character. -/
def sliceFrom? (text : String) (offset : Nat) : Option String :=
  (text.pos? ⟨offset⟩).map fun place => (text.sliceFrom place).copy

/-- The part of a text up to a byte offset, on the same terms. -/
def sliceTo? (text : String) (offset : Nat) : Option String :=
  (text.pos? ⟨offset⟩).map fun place => (text.sliceTo place).copy

section Slices

variable {text : String} {front back : List Char} (split : front ++ back = text.toList)
include split

theorem eq_append_of_split : text = .ofList front ++ .ofList back := by
  rw [← String.ofList_append, split, String.ofList_toList]

/-- Behind every front no character is cut. -/
theorem exists_pos_of_split :
    ∃ place : text.Pos, place.offset = ⟨byteLength front⟩ ∧
      place.Splits (.ofList front) (.ofList back) := by
  have whole := eq_append_of_split split
  refine ⟨.ofEqAppend whole, ?_, String.Pos.splits_ofEqAppend whole⟩
  rw [(String.Pos.splits_ofEqAppend whole).offset_eq_rawEndPos, String.rawEndPos,
    ← byteLength_toList, String.toList_ofList]

theorem pos?_of_split :
    ∃ place : text.Pos, text.pos? ⟨byteLength front⟩ = some place ∧
      place.Splits (.ofList front) (.ofList back) := by
  obtain ⟨place, offset, splits⟩ := exists_pos_of_split split
  have valid : String.Pos.Raw.isValidForSlice text.toSlice place.offset = true :=
    String.Pos.Raw.isValidForSlice_eq_true_iff.mpr
      (String.Pos.Raw.isValidForSlice_toSlice_iff.mpr place.isValid)
  refine ⟨place, ?_, splits⟩
  rw [← offset, String.pos?, String.Slice.pos?, dif_pos valid]
  rfl

theorem sliceFrom?_of_split : sliceFrom? text (byteLength front) = some (.ofList back) := by
  obtain ⟨place, found, splits⟩ := pos?_of_split split
  rw [sliceFrom?, found, Option.map_some, place.splits.eq_right splits]

theorem sliceTo?_of_split : sliceTo? text (byteLength front) = some (.ofList front) := by
  obtain ⟨place, found, splits⟩ := pos?_of_split split
  rw [sliceTo?, found, Option.map_some, place.splits.eq_left splits]

theorem byteLength_of_split : byteLength front + byteLength back = text.utf8ByteSize := by
  rw [← byteLength_append, split, byteLength_toList]

end Slices

/-- The second byte of a letter of two bytes is no place of a text. -/
example : sliceFrom? "é\n" 1 = none := by decide +kernel

/-! ## From a position to an offset -/

/-- The lines of a text, each with the newline that ends it. -/
def lines : List Char → List (List Char)
  | [] => []
  | c :: rest =>
    if c = '\n' then [c] :: lines rest
    else
      match lines rest with
      | [] => [[c]]
      | line :: others => (c :: line) :: others

theorem flatten_lines (text : List Char) : (lines text).flatten = text := by
  induction text with
  | nil => rfl
  | cons c rest ih =>
      unfold lines
      split_ifs with newline
      · simp [ih]
      · cases below : lines rest with
        | nil => simpa [below] using ih
        | cons line others => simpa [below] using ih

/-- Behind the first lines is what `dropLines` leaves. -/
theorem flatten_drop_lines (count : Nat) (text : List Char) :
    ((lines text).drop count).flatten = dropLines count text := by
  induction text generalizing count with
  | nil => cases count <;> simp [lines, dropLines]
  | cons c rest ih =>
      cases count with
      | zero => exact flatten_lines (c :: rest)
      | succ count =>
          unfold lines dropLines
          split_ifs with newline
          · exact ih count
          · rw [← ih (count + 1)]
            cases lines rest <;> simp

/-- The byte offsets at which the characters of a text begin. -/
def beginnings : List Char → List Nat
  | [] => []
  | c :: rest => 0 :: (beginnings rest).map (c.utf8Size + ·)

/-- A character begins behind the bytes of those in front of it. -/
theorem beginnings_getD (text : List Char) (count : Nat) :
    (beginnings text)[count]?.getD (byteLength text) = byteLength (text.take count) := by
  induction text generalizing count with
  | nil => simp [beginnings, byteLength]
  | cons c rest ih =>
      cases count with
      | zero => simp [beginnings, byteLength]
      | succ count =>
          have further := ih count
          simp only [List.take_succ_cons, byteLength, beginnings, List.getElem?_cons_succ,
            List.getElem?_map]
          rw [← further]
          cases (beginnings rest)[count]? <;> rfl

/-- The byte offset of a position: the bytes of the lines above, and behind them the bytes in front
of the character that the column counts to, or all that is left if there are fewer characters. -/
def offset? (text : String) (position : Position) : Option Nat := do
  let above := (((lines text.toList).take (position.line - 1)).map byteLength).sum
  let line ← sliceFrom? text (min above text.utf8ByteSize)
  return above + (beginnings line.toList)[position.column - 1]?.getD line.utf8ByteSize

theorem sum_byteLength (parts : List (List Char)) :
    (parts.map byteLength).sum = byteLength parts.flatten := by
  induction parts with
  | nil => rfl
  | cons part parts ih => simp [ih]

/-- The offset of a position has as many bytes in front of it as the place that is found. -/
theorem offset?_eq {text : String} {position : Position} {passed : List Char}
    (split : passed ++ seek text.toList position = text.toList) :
    offset? text position = some (byteLength passed) := by
  let above := ((lines text.toList).take (position.line - 1)).flatten
  let line := dropLines (position.line - 1) text.toList
  have whole : above ++ line = text.toList := by
    show _ ++ dropLines (position.line - 1) text.toList = _
    rw [← flatten_drop_lines, ← List.flatten_append, List.take_append_drop, flatten_lines]
  -- What is passed are the lines above and a part of the line.
  have front : passed = above ++ line.take (position.column - 1) := by
    have same : passed ++ seek text.toList position =
        above ++ line.take (position.column - 1) ++ seek text.toList position := by
      rw [split, List.append_assoc, seek, List.take_append_drop]
      exact whole.symm
    exact List.append_cancel_right same
  have within : min (byteLength above) text.utf8ByteSize = byteLength above := by
    rw [← byteLength_of_split whole]
    omega
  rw [offset?, sum_byteLength, within, sliceFrom?_of_split whole]
  show some (_ + (beginnings (String.ofList line).toList)[_]?.getD _) = _
  rw [← byteLength_toList, String.toList_ofList, beginnings_getD, ← byteLength_append, front]

/-- The position behind a front of a text is sought where the front ends. -/
theorem seek_after (passed rest : List Char) : seek (passed ++ rest) (.after passed) = rest := by
  rw [Position.after_eq, seek]
  show List.drop (passed.rtakeWhile _).length (dropLines (passed.count '\n') _) = rest
  rw [dropLines_count, List.drop_left]

theorem offset?_after {text : String} {passed rest : List Char}
    (split : passed ++ rest = text.toList) :
    offset? text (.after passed) = some (byteLength passed) := by
  apply offset?_eq
  rw [← split, seek_after]

/-! ## From an ending to its position -/

/-- The byte offset of the last newline of a text. -/
def lastNewline? : List Char → Option Nat
  | [] => none
  | c :: rest =>
    match lastNewline? rest with
    | some offset => some (c.utf8Size + offset)
    | none => if c = '\n' then some 0 else none

theorem lastNewline?_of_unbroken {text : List Char} (unbroken : '\n' ∉ text) :
    lastNewline? text = none := by
  induction text with
  | nil => rfl
  | cons c rest ih =>
      rw [List.mem_cons, not_or] at unbroken
      rw [lastNewline?, ih unbroken.2]
      exact if_neg (Ne.symm unbroken.1)

theorem lastNewline?_append {line : List Char} (unbroken : '\n' ∉ line) (above : List Char) :
    lastNewline? (above ++ '\n' :: line) = some (byteLength above) := by
  induction above with
  | nil => simp [lastNewline?, lastNewline?_of_unbroken unbroken, byteLength]
  | cons c above ih => rw [List.cons_append, lastNewline?, ih, byteLength]

/-- The part of a text behind its last newline. -/
def lastLine? (text : String) : Option String :=
  match lastNewline? text.toList with
  | some offset => sliceFrom? text (offset + 1)
  | none => some text

/-- A text is one line, or its last line stands behind a newline. -/
theorem rtakeWhile_line (text : List Char) :
    text.rtakeWhile (· != '\n') = text ∨
      ∃ above, above ++ '\n' :: text.rtakeWhile (· != '\n') = text := by
  have split := List.rdropWhile_append_rtakeWhile (p := (· != '\n')) (l := text)
  by_cases single : text.rdropWhile (· != '\n') = []
  · rw [single, List.nil_append] at split
    exact .inl split
  · have newline := List.rdropWhile_last_not (· != '\n') text single
    have last : (text.rdropWhile (· != '\n')).getLast single = '\n' := by simpa using newline
    have above := List.dropLast_append_getLast single
    rw [last] at above
    rw [← above, List.append_assoc] at split
    exact .inr ⟨_, split⟩

/-- The newline is one byte, so the last line can be taken behind it. -/
theorem lastLine?_eq (text : String) :
    lastLine? text = some (.ofList (text.toList.rtakeWhile (· != '\n'))) := by
  have unbroken := unbroken_rtakeWhile text.toList
  rcases rtakeWhile_line text.toList with single | ⟨above, split⟩
  · rw [single] at unbroken ⊢
    rw [lastLine?, lastNewline?_of_unbroken unbroken, String.ofList_toList]
  · generalize text.toList.rtakeWhile (· != '\n') = line at unbroken split ⊢
    have behind : byteLength (above ++ ['\n']) = byteLength above + 1 := by
      rw [byteLength_append]
      rfl
    have sliced : sliceFrom? text (byteLength above + 1) = some (.ofList line) := by
      rw [← behind]
      exact sliceFrom?_of_split (by rw [List.append_assoc, List.singleton_append, split])
    rw [lastLine?, ← split, lastNewline?_append unbroken]
    exact sliced

end Text

namespace Position

/-- The position at which `rest`, an ending of a text, begins: one line more than there are
newlines in front of it, and one column more than characters behind the last of them. There is
none if `rest` is longer than the text or the text cannot be taken apart in front of so many
bytes. -/
def ofRest? (text rest : String) : Option Position := do
  guard (rest.utf8ByteSize ≤ text.utf8ByteSize)
  let passed ← Text.sliceTo? text (text.utf8ByteSize - rest.utf8ByteSize)
  let line ← Text.lastLine? passed
  return ⟨passed.toList.count '\n' + 1, line.length + 1⟩

theorem ofRest?_eq {text rest : String} {passed : List Char}
    (split : passed ++ rest.toList = text.toList) :
    ofRest? text rest = some (after passed) := by
  have bytes := Text.byteLength_of_split split
  rw [Text.byteLength_toList] at bytes
  have front : text.utf8ByteSize - rest.utf8ByteSize = Text.byteLength passed := by omega
  have shorter : rest.utf8ByteSize ≤ text.utf8ByteSize := by omega
  rw [ofRest?, front, Text.sliceTo?_of_split split, after_eq]
  simp [guard, shorter, Text.lastLine?_eq]

/-! ## Reading order -/

/-- A position is another one or comes before it in reading order. -/
def UpTo (earlier later : Position) : Prop := earlier = later ∨ earlier.Precedes later

/-- What is passed moves the position on, or it stays where it is. -/
theorem upTo_after (front back : List Char) : (after front).UpTo (after (front ++ back)) := by
  cases back with
  | nil => exact .inl (by rw [List.append_nil])
  | cons c back => exact .inr (precedes_after front c back)

end Position

end Phrasebook
