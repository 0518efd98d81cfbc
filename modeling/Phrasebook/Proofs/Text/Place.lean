import Phrasebook.Json.Fault
import Mathlib

/-!
# Places in bytes and in characters

A place in a text can be counted in characters, as positions are, or in bytes, as a reader of
JSON does. Two things are settled here about each way of counting: what the numbers say, and that
different places of a text have different numbers.

The two ways meet in `drop_eq_fromByte_iff`: going on by the same number of characters and of
bytes leads to the same place of a line iff all that is passed is ASCII.
-/

namespace Phrasebook

namespace Text

/-! ## Bytes -/

@[simp] theorem byteLength_append (front back : List Char) :
    byteLength (front ++ back) = byteLength front + byteLength back := by
  induction front with
  | nil => simp [byteLength]
  | cons c front ih =>
      simp only [List.cons_append, byteLength, ih]
      omega

theorem length_le_byteLength (text : List Char) : text.length ≤ byteLength text := by
  induction text with
  | nil => exact Nat.zero_le _
  | cons c rest ih =>
      have some := c.utf8Size_pos
      simp only [List.length_cons, byteLength]
      omega

/-- A text with no more bytes than characters is ASCII. -/
theorem ascii_of_byteLength_le {text : List Char} (few : byteLength text ≤ text.length) :
    ∀ c ∈ text, c.utf8Size = 1 := by
  induction text with
  | nil => exact fun c member => absurd member List.not_mem_nil
  | cons first rest ih =>
      have some := first.utf8Size_pos
      have others := length_le_byteLength rest
      simp only [byteLength, List.length_cons] at few
      intro c member
      rcases List.mem_cons.mp member with rfl | member
      · omega
      · exact ih (by omega) c member

theorem byteLength_of_ascii {text : List Char} (ascii : ∀ c ∈ text, c.utf8Size = 1) :
    byteLength text = text.length := by
  induction text with
  | nil => rfl
  | cons first rest ih =>
      have one := ascii first List.mem_cons_self
      have others := ih fun c member => ascii c (List.mem_cons_of_mem _ member)
      simp only [byteLength, List.length_cons]
      omega

/-- The rest of a text from the character on that contains its byte with a number, counted from 1;
nothing is left if the text has fewer bytes. -/
def fromByte : List Char → Nat → List Char
  | [], _ => []
  | c :: rest, number =>
    if number ≤ c.utf8Size then c :: rest else fromByte rest (number - c.utf8Size)

/-- What is passed ends in front of the byte, and the next character contains it. -/
theorem fromByte_split (text : List Char) {number : Nat} (counted : 0 < number) :
    ∃ passed, text = passed ++ fromByte text number ∧ byteLength passed < number ∧
      ∀ c ∈ (fromByte text number).head?, number ≤ byteLength passed + c.utf8Size := by
  induction text generalizing number with
  | nil => exact ⟨[], rfl, counted, nofun⟩
  | cons first rest ih =>
      unfold fromByte
      split
      · rename_i within
        refine ⟨[], rfl, counted, ?_⟩
        intro c head
        cases head
        simpa [byteLength] using within
      · rename_i beyond
        obtain ⟨passed, split, before, contains⟩ := @ih (number - first.utf8Size) (by omega)
        refine ⟨first :: passed, congrArg (first :: ·) split, ?_, ?_⟩
        · simp only [byteLength]
          omega
        · intro c head
          have reached := contains c head
          simp only [byteLength]
          omega

/-- There is a character with every byte of a text. -/
theorem fromByte_ne_nil {text : List Char} {number : Nat} (counted : 0 < number)
    (enough : number ≤ byteLength text) : fromByte text number ≠ [] := by
  intro empty
  obtain ⟨passed, split, before, -⟩ := fromByte_split text counted
  rw [empty, List.append_nil] at split
  rw [split] at enough
  omega

/-- In front of the character `c` with a byte there is one character for each byte before that byte,
if the characters there are ASCII. -/
theorem length_of_ascii_front {passed rest : List Char} {c : Char} {number : Nat}
    (ascii : ∀ d ∈ (passed ++ c :: rest).take (number - 1), d.utf8Size = 1)
    (before : byteLength passed < number) (reached : number ≤ byteLength passed + c.utf8Size) :
    passed.length = number - 1 := by
  have short := length_le_byteLength passed
  by_contra fewer
  -- Otherwise `c` is ASCII too, and the byte would lie behind it.
  have all : ∀ d ∈ passed ++ [c], d.utf8Size = 1 := by
    intro d member
    refine ascii d ?_
    have front : passed ++ [c] = (passed ++ c :: rest).take (passed.length + 1) := by
      simp [List.take_append]
    rw [front] at member
    exact List.take_subset_take_left _ (by omega) member
  have bytes := byteLength_of_ascii all
  simp only [byteLength_append, byteLength, List.length_append, List.length_cons,
    List.length_nil] at bytes
  omega

/-- Behind as many characters as there are bytes in front of a byte stands the character with that
byte iff all of these characters are ASCII. -/
theorem drop_eq_fromByte_iff {text : List Char} {number : Nat} (counted : 0 < number)
    (within : number ≤ max (byteLength text) 1) :
    text.drop (number - 1) = fromByte text number ↔
      ∀ c ∈ text.take (number - 1), c.utf8Size = 1 := by
  by_cases empty : text = []
  · simp [empty, fromByte]
  have enough : number ≤ byteLength text := by
    have some := length_le_byteLength text
    have filled := List.length_pos_of_ne_nil empty
    omega
  obtain ⟨passed, split, before, contains⟩ := fromByte_split text counted
  obtain ⟨c, rest, left⟩ := List.exists_cons_of_ne_nil (fromByte_ne_nil counted enough)
  rw [left] at split contains ⊢
  have reached : number ≤ byteLength passed + c.utf8Size := contains c rfl
  have short := length_le_byteLength passed
  subst split
  constructor
  · intro same
    -- As many characters as bytes are passed.
    have count : passed.length = number - 1 := by
      have lengths := congrArg List.length same
      simp only [List.length_drop, List.length_append, List.length_cons] at lengths
      omega
    rw [← count, List.take_left]
    exact ascii_of_byteLength_le (by omega)
  · intro ascii
    rw [← length_of_ascii_front ascii before reached, List.drop_left]

/-! ## Lines -/

theorem dropLines_suffix (count : Nat) (text : List Char) : dropLines count text <:+ text := by
  induction text generalizing count with
  | nil => cases count <;> exact List.suffix_rfl
  | cons c rest ih =>
      cases count with
      | zero => exact List.suffix_rfl
      | succ count =>
          simp only [dropLines]
          split
          · exact (ih count).trans (List.suffix_cons c rest)
          · exact (ih (count + 1)).trans (List.suffix_cons c rest)

theorem seek_suffix (text : List Char) (position : Position) : seek text position <:+ text :=
  (List.drop_suffix _ _).trans (dropLines_suffix _ _)

/-- One line more is the next line of what is left. -/
theorem dropLines_succ (count : Nat) (text : List Char) :
    dropLines (count + 1) text = dropLines 1 (dropLines count text) := by
  induction text generalizing count with
  | nil => cases count <;> rfl
  | cons c rest ih =>
      cases count with
      | zero => rfl
      | succ count =>
          by_cases newline : c = '\n'
          · simp only [dropLines, if_pos newline]
            exact ih count
          · simp only [dropLines, if_neg newline]
            exact ih (count + 1)

theorem dropLines_one {line : List Char} (unbroken : '\n' ∉ line) (rest : List Char) :
    dropLines 1 (line ++ '\n' :: rest) = rest := by
  induction line with
  | nil => simp [dropLines]
  | cons c line ih =>
      rw [List.mem_cons, not_or] at unbroken
      rw [List.cons_append, dropLines, if_neg (Ne.symm unbroken.1)]
      exact ih unbroken.2

/-- What is behind the last newline of a text has none. -/
theorem unbroken_rtakeWhile (text : List Char) : '\n' ∉ text.rtakeWhile (· != '\n') := by
  intro member
  simpa using List.mem_rtakeWhile_imp member

/-- Behind as many lines as end in front of a place begins the line that the place is in. -/
theorem dropLines_count (passed rest : List Char) :
    dropLines (passed.count '\n') (passed ++ rest) = passed.rtakeWhile (· != '\n') ++ rest := by
  induction passed using List.reverseRecOn generalizing rest with
  | nil => simp [dropLines]
  | append_singleton front c ih =>
      rw [List.count_append, List.append_assoc, List.rtakeWhile_concat]
      by_cases newline : c = '\n'
      · subst newline
        -- The line in front of this newline is the last one that is dropped.
        rw [List.count_singleton_self, dropLines_succ, ih, List.singleton_append,
          dropLines_one (unbroken_rtakeWhile front)]
        rfl
      · rw [List.count_singleton, if_neg (by simpa using newline), Nat.add_zero, ih,
          if_pos (by simpa using newline), List.append_assoc]

theorem fromByte_suffix (text : List Char) (number : Nat) : fromByte text number <:+ text := by
  induction text generalizing number with
  | nil => exact List.suffix_rfl
  | cons c rest ih =>
      unfold fromByte
      split
      · exact List.suffix_rfl
      · exact (ih _).trans (List.suffix_cons c rest)

end Text

namespace Position

/-- The line behind a text is one more than its newlines, and the column one more than the
characters behind the last of them. -/
theorem after_eq (passed : List Char) :
    after passed = ⟨passed.count '\n' + 1, (passed.rtakeWhile (· != '\n')).length + 1⟩ := by
  induction passed using List.reverseRecOn with
  | nil => rfl
  | append_singleton front c ih =>
      have last : after (front ++ [c]) = (after front).advance c := by
        simp [after]
      rw [last, ih, List.rtakeWhile_concat, advance]
      by_cases newline : c = '\n'
      · simp [newline]
      · simp [newline]

/-- A position comes before another one in reading order. -/
def Precedes (earlier later : Position) : Prop :=
  earlier.line < later.line ∨ earlier.line = later.line ∧ earlier.column < later.column

theorem precedes_advance (position : Position) (c : Char) :
    position.Precedes (position.advance c) := by
  unfold Precedes advance
  split
  · exact .inl (Nat.lt_succ_self _)
  · exact .inr ⟨rfl, Nat.lt_succ_self _⟩

theorem Precedes.trans {first second third : Position} (earlier : first.Precedes second)
    (later : second.Precedes third) : first.Precedes third := by
  unfold Precedes at *
  omega

theorem Precedes.ne {earlier later : Position} (precedes : earlier.Precedes later) :
    earlier ≠ later := by
  rintro rfl
  unfold Precedes at precedes
  omega

/-- Whatever is passed, the position moves on. -/
theorem precedes_after (front : List Char) (c : Char) (back : List Char) :
    (after front).Precedes (after (front ++ c :: back)) := by
  induction back using List.reverseRecOn with
  | nil => simpa [after] using precedes_advance (after front) c
  | append_singleton back last ih =>
      have step := precedes_advance (after (front ++ c :: back)) last
      have whole : after (front ++ c :: (back ++ [last])) =
          (after (front ++ c :: back)).advance last := by
        simp [after]
      rw [whole]
      exact ih.trans step

/-- Different places of a text have different positions. -/
theorem after_inj {text front other : List Char} (begins : front <+: text)
    (otherBegins : other <+: text) (same : after front = after other) : front = other := by
  rcases List.prefix_or_prefix_of_prefix begins otherBegins with
    ⟨back, rfl⟩ | ⟨back, rfl⟩
  · cases back with
    | nil => exact (List.append_nil _).symm
    | cons c back => exact absurd same (precedes_after front c back).ne
  · cases back with
    | nil => exact List.append_nil _
    | cons c back => exact absurd same.symm (precedes_after other c back).ne

theorem ofRest_append (passed rest : List Char) : ofRest (passed ++ rest) rest = after passed := by
  simp [ofRest]

theorem ofRest_inj {text rest other : List Char} (ends : rest <:+ text)
    (otherEnds : other <:+ text) : ofRest text rest = ofRest text other ↔ rest = other := by
  constructor
  · intro same
    obtain ⟨front, rfl⟩ := ends
    obtain ⟨otherFront, split⟩ := otherEnds
    rw [ofRest_append, ← split, ofRest_append] at same
    have fronts := after_inj (List.prefix_append front rest) ⟨other, split⟩ same
    rw [← fronts] at split
    exact (List.append_cancel_left split).symm
  · rintro rfl
    rfl

end Position

namespace Json

/-- A line and a byte column count all bytes in front of a place: those of the lines above, and the
bytes behind the last newline. -/
theorem placeFrom_bytes {line column bytes : Nat} {text : List Char} {place : Position}
    (reached : placeFrom line column text bytes = place) (within : bytes ≤ Text.byteLength text) :
    line ≤ place.line ∧
      bytes + (if place.line = line then column else 0) +
          Text.byteLength (Text.dropLines (place.line - line) text) =
        Text.byteLength text + place.column := by
  induction text generalizing line column bytes with
  | nil =>
      subst reached
      have none : bytes = 0 := Nat.le_zero.mp within
      simp [placeFrom, Text.dropLines, Text.byteLength, none]
  | cons c rest ih =>
      simp only [Text.byteLength] at within
      unfold placeFrom at reached
      split_ifs at reached with start newline inside
      · subst reached start
        simp [Text.dropLines]
        omega
      · -- The lines above the place now end with this newline.
        subst newline
        have one : '\n'.utf8Size = 1 := by decide
        obtain ⟨below, counted⟩ := ih reached (by omega)
        obtain ⟨above, down⟩ := Nat.exists_eq_add_of_le below
        have lines : place.line - line = above + 1 := by omega
        have lower : place.line - (line + 1) = above := by omega
        rw [lower, ite_self] at counted
        refine ⟨by omega, ?_⟩
        rw [lines, Text.dropLines, if_pos rfl, Text.byteLength, if_neg (by omega)]
        omega
      · -- The place is inside of `c`.
        subst reached
        simp [Text.dropLines, Text.byteLength]
        omega
      · obtain ⟨below, counted⟩ := ih reached (by omega)
        refine ⟨below, ?_⟩
        by_cases same : place.line = line
        · rw [if_pos same] at counted ⊢
          simp only [same, Nat.sub_self, Text.dropLines, Text.byteLength] at counted ⊢
          omega
        · obtain ⟨above, lines⟩ : ∃ above, place.line - line = above + 1 :=
            ⟨place.line - line - 1, by omega⟩
          rw [if_neg same, lines] at counted ⊢
          rw [Text.dropLines, if_neg newline, Text.byteLength]
          omega

/-- The bytes that the column of a fault counts are there behind the lines above it. -/
theorem Fault.column_le (fault : Fault) (text : List Char) :
    (fault.position text).column ≤
      Text.byteLength (Text.dropLines ((fault.position text).line - 1) text) := by
  obtain ⟨-, counted⟩ := placeFrom_bytes (show _ = fault.position text from rfl) (Nat.sub_le _ _)
  rw [ite_self] at counted
  omega

end Json

end Phrasebook
