import Phrasebook.Proofs.Template.FaultPlace
import Phrasebook.Proofs.Template.ReadBack
import Phrasebook.Proofs.Template.Substitution
import Phrasebook.Proofs.Template.Writing

/-!
# Phrases one behind the other

Where no brace is left open at the end of a text, compiling it together with a text behind it is
compiling the two one by one and joining the phrases: the last literal piece of the first and the
first piece of the second become one. What is wrong with the second text is wrong with both, at
the place that is moved on by the first (`compile_append`).

The scan carries it (`parts_append`). A character of the first text that stands for itself does so
whatever is put behind the text: either a slot follows in the first text, and no reader gets beyond
the two braces of that slot, or the character is in the last piece and so is no brace.
-/

namespace Phrasebook

namespace Position

/-- The position behind one more text in front: the first line goes on where the last line of that
text ends, and every line is as many lines further down as the text has newlines. -/
def behind (front : List Char) (position : Position) : Position :=
  { line := position.line + front.count '\n'
    column :=
      if position.line = 1 then position.column + (front.rtakeWhile (· != '\n')).length
      else position.column }

theorem after_append (front passed : List Char) :
    after (front ++ passed) = (after passed).behind front := by
  induction passed using List.reverseRecOn with
  | nil =>
      rw [List.append_nil, after_eq]
      simp only [behind, after, start, List.foldl_nil, if_true]
      congr 1 <;> exact Nat.add_comm _ _
  | append_singleton passed c ih =>
      have last : ∀ text : List Char, after (text ++ [c]) = (after text).advance c := by
        intro text
        simp [after]
      have below : 1 ≤ (after passed).line := by
        rw [after_eq]
        exact Nat.le_add_left _ _
      rw [← List.append_assoc, last, last, ih]
      by_cases newline : c = '\n'
      · -- The next line begins at its first column in both texts.
        have next : (after passed).line + 1 ≠ 1 := by omega
        simp only [advance, behind, if_pos newline, if_neg next]
        congr 1
        omega
      · simp only [advance, behind, if_neg newline]
        by_cases first : (after passed).line = 1
        · simp only [if_pos first]
          congr 1
          omega
        · simp only [if_neg first]

end Position

namespace Template

/-! ## Rows one behind the other -/

/-- A text without the mark of a slot is spelled by its characters. -/
theorem spells_of_unmarked {text : List Char} (unmarked : ¬ openMark <:+: text) :
    Spells (text.map .literal) text := by
  induction text with
  | nil => exact .nil
  | cons c rest ih =>
      refine .literal (literal_of_unmarked unmarked List.suffix_rfl) (ih fun marked => ?_)
      exact unmarked (marked.trans (List.suffix_cons c rest).isInfix)

/-- A row with a slot spells a text with the mark of a slot. -/
theorem Spells.marked {row : List Part} {text : List Char} (spelled : Spells row text)
    (slots : (ofParts row).slots ≠ []) : openMark <:+: text := by
  induction spelled with
  | nil => exact absurd rfl slots
  | literal _ _ ih =>
      rw [ofParts_literal] at slots
      exact (ih slots).trans (List.infix_cons List.infix_rfl)
  | slot written _ _ =>
      obtain ⟨inner, rfl⟩ := written.braces
      exact ⟨[], _, rfl⟩

/-- A text with the mark of a slot agrees with every longer one up to the mark. -/
theorem agreeToBraces_append {text : List Char} (marked : openMark <:+: text)
    (behind : List Char) : AgreeToBraces text (text ++ behind) := by
  obtain ⟨front, rest, rfl⟩ := marked
  exact .inr ⟨front, rest, rest ++ behind, by simp [openMark], by simp [openMark]⟩

/-- A character in front of a row goes to its first piece, which is the last one too if the row
has no slot. -/
theorem pieces_ofParts_literal (c : Char) (row : List Part) :
    ∃ opening rest, (ofParts row).pieces = opening :: rest ∧
      (ofParts (.literal c :: row)).pieces = (c :: opening) :: rest ∧
      ((ofParts row).slots = [] ↔ rest = []) := by
  rw [ofParts_literal]
  obtain ⟨opening, slots⟩ := ofParts row
  refine ⟨opening.toList, slots.map (·.2.toList), pieces_mk opening slots, ?_, by simp⟩
  rw [pieces_mk, String.toList_ofList]

theorem pieces_ofParts_slot (slot : Slot) (row : List Part) :
    (ofParts (.slot slot :: row)).pieces = [] :: (ofParts row).pieces := by
  simp [ofParts_slot, pieces, fragments]

/-- The last literal piece of a row has no brace. -/
def Closed (row : List Part) : Prop := ∀ piece ∈ (ofParts row).pieces.getLast?, '{' ∉ piece

/-- The first character of a closed row is no brace if no slot follows, and the rest of the row is
closed too. -/
theorem Closed.of_literal {c : Char} {row : List Part} (closed : Closed (.literal c :: row)) :
    Closed row ∧ ((ofParts row).slots = [] → c ≠ '{') := by
  obtain ⟨opening, rest, inner, whole, alone⟩ := pieces_ofParts_literal c row
  unfold Closed at *
  rw [whole] at closed
  rw [inner, alone]
  cases rest with
  | nil =>
      have braceless : '{' ∉ c :: opening := closed _ rfl
      rw [List.mem_cons, not_or] at braceless
      exact ⟨fun piece last => Option.mem_some_iff.mp last ▸ braceless.2,
        fun _ => Ne.symm braceless.1⟩
  | cons second rest => exact ⟨closed, fun absent => absurd absent (List.cons_ne_nil _ _)⟩

theorem Closed.of_slot {slot : Slot} {row : List Part} (closed : Closed (.slot slot :: row)) :
    Closed row := by
  unfold Closed at *
  rw [pieces_ofParts_slot] at closed
  intro piece last
  refine closed piece ?_
  rw [List.getLast?_cons, Option.mem_def.mp last]
  rfl

/-- A text that a closed row spells is scanned as that row, whatever is behind the text. -/
theorem parts_append {row : List Part} {text : List Char} (spelled : Spells row text)
    (closed : Closed row) (behind : List Char) :
    parts (text ++ behind) = (parts behind).map (row ++ ·) := by
  induction spelled with
  | nil =>
      rw [List.nil_append]
      cases parts behind <;> rfl
  | @literal c rest row stands spelled ih =>
      obtain ⟨closedRest, plain⟩ := closed.of_literal
      have still : Literal (c :: (rest ++ behind)) := by
        by_cases last : (ofParts row).slots = []
        · exact literal_of_ne_brace (plain last) _
        · exact stands.of_agree (agreeToBraces_append (spelled.marked last) behind)
      rw [List.cons_append, parts_literal still, ih closedRest]
      cases parts behind <;> rfl
  | @slot slot span rest row written spelled ih =>
      rw [List.append_assoc, parts_slot written, ih closed.of_slot]
      cases parts behind <;> rfl

/-- The template of two rows has the slots of both. -/
theorem slots_ofParts_append (row other : List Part) :
    (ofParts (row ++ other)).slots.map (·.1) =
      (ofParts row).slots.map (·.1) ++ (ofParts other).slots.map (·.1) := by
  induction row with
  | nil => rfl
  | cons part row ih =>
      cases part with
      | literal c =>
          rw [List.cons_append, ofParts_literal, ofParts_literal]
          exact ih
      | slot slot =>
          rw [List.cons_append, ofParts_slot, ofParts_slot, List.map_cons, ih]
          rfl

/-- The pieces of two rows are joined where the rows are. -/
theorem pieces_ofParts_append (row other : List Part) :
    ∃ front last head back, (ofParts row).pieces = front ++ [last] ∧
      (ofParts other).pieces = head :: back ∧
      (ofParts (row ++ other)).pieces = front ++ (last ++ head) :: back := by
  induction row with
  | nil => exact ⟨[], [], _, _, rfl, rfl, rfl⟩
  | cons part row ih =>
      obtain ⟨front, last, head, back, first, second, whole⟩ := ih
      cases part with
      | slot slot =>
          refine ⟨[] :: front, last, head, back, ?_, second, ?_⟩
          · rw [pieces_ofParts_slot, first, List.cons_append]
          · rw [List.cons_append, pieces_ofParts_slot, whole, List.cons_append]
      | literal c =>
          obtain ⟨opening, rest, inner, longer, -⟩ := pieces_ofParts_literal c row
          obtain ⟨joined, others, innerWhole, longerWhole, -⟩ :=
            pieces_ofParts_literal c (row ++ other)
          rw [inner] at first
          rw [innerWhole] at whole
          rw [List.cons_append, longer, longerWhole]
          cases front with
          | nil =>
              cases first
              cases whole
              exact ⟨[], c :: last, head, back, rfl, second, rfl⟩
          | cons piece front =>
              cases first
              cases whole
              exact ⟨(c :: opening) :: front, last, head, back, rfl, second, rfl⟩

end Template

namespace Phrase

open Template

/-- The row of parts that a phrase was compiled from. -/
theorem spells_of_compile {raw : String} {phrase : Phrase} (accepted : compile raw = .ok phrase) :
    ∃ row, Spells row raw.toList ∧ phrase.pieces = (ofParts row).pieces ∧
      phrase.slots = (ofParts row).slots.map (·.1) := by
  cases phrase with
  | template parts =>
      obtain ⟨-, row, spelled, rfl⟩ := compile_eq_template_iff.mp accepted
      exact ⟨row, spelled, rfl, rfl⟩
  | plain text =>
      obtain ⟨unmarked, rfl⟩ := compile_eq_plain_iff.mp accepted
      have alone := ofParts_literals text.toList []
      rw [List.append_nil] at alone
      refine ⟨_, spells_of_unmarked unmarked, ?_, ?_⟩
      · rw [alone, pieces_mk]
        simp [pieces, ofParts_nil]
      · rw [alone]
        rfl

/-- The first phrase goes on as the second: the slots of both in order, and their pieces with the
last of the first and the first of the second joined. -/
structure Joins (first second whole : Phrase) : Prop where
  slots : whole.slots = first.slots ++ second.slots
  pieces : ∃ front last head back, first.pieces = front ++ [last] ∧
    second.pieces = head :: back ∧ whole.pieces = front ++ (last ++ head) :: back
  plain : (∃ text, whole = .plain text) ↔
    (∃ text, first = .plain text) ∧ ∃ text, second = .plain text

theorem plain_iff_unmarked {raw : String} {phrase : Phrase} (accepted : compile raw = .ok phrase) :
    (∃ text, phrase = .plain text) ↔ ¬ openMark <:+: raw.toList := by
  constructor
  · rintro ⟨text, rfl⟩
    exact (compile_eq_plain_iff.mp accepted).1
  · intro unmarked
    rw [compile_eq_plain_iff.mpr ⟨unmarked, rfl⟩] at accepted
    exact ⟨raw, (Except.ok.inj accepted).symm⟩

/-- The mark of a slot is not put together from the end of one text and the beginning of another if
the first one has no brace. -/
theorem marked_append_iff {front back : List Char}
    (braceless : ¬ openMark <:+: front → '{' ∉ front) :
    openMark <:+: front ++ back ↔ openMark <:+: front ∨ openMark <:+: back := by
  constructor
  · rintro ⟨before, behind, split⟩
    by_cases marked : openMark <:+: front
    · exact .inl marked
    · rw [List.append_assoc, List.append_eq_append_iff] at split
      rcases split with ⟨middle, rfl, brace⟩ | ⟨middle, rfl, whole⟩
      · -- The first brace of the mark would be in the first text, or nothing of the mark is.
        cases middle with
        | nil => exact .inr ⟨[], behind, brace⟩
        | cons c middle =>
            obtain ⟨rfl, -⟩ := List.cons.inj brace
            exact absurd (List.mem_append_right _ List.mem_cons_self) (braceless marked)
      · exact .inr ⟨middle, behind, by rw [whole, List.append_assoc]⟩
  · rintro (before | behind)
    · exact before.trans (List.prefix_append _ _).isInfix
    · exact behind.trans (List.suffix_append _ _).isInfix

variable {a b : String} {first second : Phrase}

/-- The row of a phrase is closed if its last literal piece has no brace. -/
theorem closed_row (accepted : compile a = .ok first)
    (closed : ∀ piece ∈ first.pieces.getLast?, '{' ∉ piece) :
    ∃ row, Spells row a.toList ∧ Closed row ∧ first.pieces = (ofParts row).pieces ∧
      first.slots = (ofParts row).slots.map (·.1) := by
  obtain ⟨row, spelled, pieces, slots⟩ := spells_of_compile accepted
  rw [pieces] at closed
  exact ⟨row, spelled, closed, pieces, slots⟩

/-- Joined texts compile to joined phrases. -/
theorem joins_of_compile (accepted : compile a = .ok first)
    (closed : ∀ piece ∈ first.pieces.getLast?, '{' ∉ piece) (behind : compile b = .ok second) :
    ∃ whole, compile (a ++ b) = .ok whole ∧ Joins first second whole := by
  obtain ⟨row, spelled, closedRow, firstPieces, firstSlots⟩ := closed_row accepted closed
  obtain ⟨other, otherSpelled, secondPieces, secondSlots⟩ := spells_of_compile behind
  have scanned : parts (a ++ b).toList = .ok (row ++ other) := by
    rw [String.toList_append, parts_append spelled closedRow, parts_eq_ok_iff.mpr otherSpelled]
    rfl
  cases compiled : compile (a ++ b) with
  | error error =>
      obtain ⟨place, fault, found, -⟩ := compile_eq_error_iff.mp compiled
      rw [parts_eq_error_iff.mpr ⟨place, found⟩] at scanned
      cases scanned
  | ok whole =>
      obtain ⟨joined, joinedSpelled, pieces, slots⟩ := spells_of_compile compiled
      rw [parts_eq_ok_iff.mpr joinedSpelled] at scanned
      obtain rfl : joined = row ++ other := Except.ok.inj scanned
      refine ⟨whole, rfl, ?_, ?_, ?_⟩
      · rw [slots, slots_ofParts_append, firstSlots, secondSlots]
      · rw [pieces, firstPieces, secondPieces]
        exact pieces_ofParts_append row other
      · have braceless : ¬ openMark <:+: a.toList → '{' ∉ a.toList := by
          intro unmarked
          obtain ⟨text, rfl⟩ := (plain_iff_unmarked accepted).mpr unmarked
          obtain ⟨-, rfl⟩ := compile_eq_plain_iff.mp accepted
          exact closed _ rfl
        rw [plain_iff_unmarked compiled, plain_iff_unmarked accepted, plain_iff_unmarked behind,
          String.toList_append, marked_append_iff braceless, not_or]

/-- What is wrong with the second text is wrong with both. -/
theorem error_of_append (accepted : compile a = .ok first)
    (closed : ∀ piece ∈ first.pieces.getLast?, '{' ∉ piece) {error : CompileError}
    (rejected : compile b = .error error) :
    compile (a ++ b) = .error ⟨a ++ b, error.position.behind a.toList, error.cause⟩ := by
  obtain ⟨row, spelled, closedRow, -, -⟩ := closed_row accepted closed
  obtain ⟨place, fault, found, rfl⟩ := compile_eq_error_iff.mp rejected
  have scanned : parts (a ++ b).toList = .error fault := by
    rw [String.toList_append, parts_append spelled closedRow,
      parts_eq_error_iff.mpr ⟨place, found⟩]
    rfl
  obtain ⟨reached, foundBehind⟩ := parts_eq_error_iff.mp scanned
  refine compile_eq_error_iff.mpr ⟨reached, fault, foundBehind, ?_⟩
  obtain ⟨passed, split⟩ := found.suffix
  rw [String.toList_append, ← split, ← List.append_assoc, Position.ofRest_append,
    Position.ofRest_append, Position.after_append]

/-- **Concatenation.** A text compiles, and no brace stands in its last literal piece. If a second
text compiles, both together compile to the two phrases joined, which is plain iff both are. If
the second text is rejected, both together are rejected for the same cause; the place is as many
lines further down as the first text has newlines, and a place in the first line is as many
characters further on as the first text has behind its last newline. -/
theorem compile_append (accepted : compile a = .ok first)
    (closed : ∀ piece ∈ first.pieces.getLast?, '{' ∉ piece) (b : String) :
    (∀ second, compile b = .ok second →
      ∃ whole, compile (a ++ b) = .ok whole ∧ Joins first second whole) ∧
    ∀ error, compile b = .error error →
      compile (a ++ b) = .error ⟨a ++ b, error.position.behind a.toList, error.cause⟩ :=
  ⟨fun _ behind => joins_of_compile accepted closed behind,
    fun _ rejected => error_of_append accepted closed rejected⟩

/-- The first text ends in a line of its own behind a slot, and has an open mark that is literal. The
second text goes on in that line, or is wrong in it. -/
theorem compile_append_behind_accent :
    let a := "\x7b\x7b \x7b\x7bn, f, \x7b\"k\": 1\x7d\x7d\x7d\né, "
    let first : Phrase := .template ⟨"\x7b\x7b ",
      [(⟨"n", some ⟨"f", some (.object [("k", .integer 1)])⟩⟩, "\né, ")]⟩
    let cause : CompileCause := .malformedSettings ⟨.nameNotString, ⟨1, 2⟩⟩
    compile a = .ok first ∧ (∀ piece ∈ first.pieces.getLast?, '{' ∉ piece) ∧
      (∃ whole, compile (a ++ "b\x7d\x7d") = .ok whole ∧
        Joins first (.plain "b\x7d\x7d") whole) ∧
      compile "\x7b\x7bn, f, \x7bx\x7d\x7d\x7d" =
        .error ⟨"\x7b\x7bn, f, \x7bx\x7d\x7d\x7d", ⟨1, 10⟩, cause⟩ ∧
      compile (a ++ "\x7b\x7bn, f, \x7bx\x7d\x7d\x7d") =
        .error ⟨a ++ "\x7b\x7bn, f, \x7bx\x7d\x7d\x7d", ⟨2, 13⟩, cause⟩ := by
  intro a first cause
  have accepted : compile a = .ok first := by cbv
  have closed : ∀ piece ∈ first.pieces.getLast?, '{' ∉ piece := by decide +kernel
  have rejected : compile "\x7b\x7bn, f, \x7bx\x7d\x7d\x7d" =
      .error ⟨"\x7b\x7bn, f, \x7bx\x7d\x7d\x7d", ⟨1, 10⟩, cause⟩ := by cbv
  have place : (⟨1, 10⟩ : Position).behind a.toList = ⟨2, 13⟩ := by decide +kernel
  refine ⟨accepted, closed, ?_, rejected, ?_⟩
  · exact (compile_append accepted closed _).1 _ (by cbv)
  · rw [← place]
    exact (compile_append accepted closed _).2 _ rejected

end Phrase

end Phrasebook
