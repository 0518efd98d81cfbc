import Phrasebook.Proofs.Template.Compilation
import Mathlib

/-!
# A template and its text

A template is the text it was compiled from, cut at its slots: the fragments and the written
forms of the slots make up the text again, with nothing lost and nothing doubled, and no slot is
overlooked inside a fragment (`compile_splits`). The invariant of the induction is the row of
parts that spells the text; `ofParts` only puts neighbouring characters of it together.
-/

namespace Phrasebook

namespace Template

/-! ## Rows of parts as templates -/

theorem ofParts_nil : ofParts [] = ⟨"", []⟩ := rfl

theorem ofParts_literal (c : Char) (row : List Part) :
    ofParts (.literal c :: row) =
      ⟨String.ofList (c :: (ofParts row).opening.toList), (ofParts row).slots⟩ := by
  simp [ofParts, gather, String.toList_ofList]

theorem ofParts_slot (slot : Slot) (row : List Part) :
    ofParts (.slot slot :: row) =
      ⟨"", (slot, (ofParts row).opening) :: (ofParts row).slots⟩ := rfl

/-- The literal texts in order, as characters. -/
def pieces (template : Template) : List (List Char) := template.fragments.map String.toList

theorem pieces_mk (opening : String) (slots : List (Slot × String)) :
    pieces ⟨opening, slots⟩ = opening.toList :: slots.map (·.2.toList) := by
  simp [pieces, fragments]

/-! ## Weaving -/

/-- The text of pieces with spans between them. -/
def weave : List (List Char) → List (List Char) → List Char
  | piece :: pieces, span :: spans => piece ++ span ++ weave pieces spans
  | pieces, _ => pieces.flatten

/-- The rest of a woven text from a place inside one of its pieces on. -/
inductive InPiece : List (List Char) → List (List Char) → List Char → Prop
  | here {piece before after : List Char} {pieces spans : List (List Char)} :
      piece = before ++ after → after ≠ [] →
      InPiece (piece :: pieces) spans (weave (after :: pieces) spans)
  | behind {piece span place : List Char} {pieces spans : List (List Char)} :
      InPiece pieces spans place → InPiece (piece :: pieces) (span :: spans) place

theorem weave_cons (c : Char) (piece : List Char) (pieces spans : List (List Char)) :
    weave ((c :: piece) :: pieces) spans = c :: weave (piece :: pieces) spans := by
  cases spans <;> rfl

/-- A place in a longer first piece is its first character or a place of the shorter one. -/
theorem InPiece.of_cons {c : Char} {piece place : List Char} {pieces spans : List (List Char)}
    (inside : InPiece ((c :: piece) :: pieces) spans place) :
    place = c :: weave (piece :: pieces) spans ∨ InPiece (piece :: pieces) spans place := by
  cases inside with
  | @here _ before after _ _ split nonempty =>
      cases before with
      | nil =>
          rw [List.nil_append] at split
          subst split
          exact .inl (weave_cons c piece pieces spans)
      | cons first before =>
          simp only [List.cons_append, List.cons.injEq] at split
          exact .inr (.here split.2 nonempty)
  | behind inside => exact .inr (.behind inside)

/-- There is no place inside an empty first piece. -/
theorem InPiece.of_nil {span place : List Char} {pieces spans : List (List Char)}
    (inside : InPiece ([] :: pieces) (span :: spans) place) : InPiece pieces spans place := by
  cases inside with
  | here split nonempty => exact absurd (List.append_eq_nil_iff.mp split.symm).2 nonempty
  | behind inside => exact inside

/-- A text that a row spells is woven from the template of the row, and every place inside a
fragment stands for itself. -/
theorem Spells.woven {row : List Part} {text : List Char} (spelled : Spells row text) :
    ∃ spans, List.Forall₂ SlotText ((ofParts row).slots.map (·.1)) spans ∧
      text = weave (ofParts row).pieces spans ∧
      ∀ place, InPiece (ofParts row).pieces spans place → Literal place := by
  induction spelled with
  | nil =>
      refine ⟨[], .nil, rfl, ?_⟩
      intro place inside
      cases inside with
      | here split nonempty => exact absurd (List.append_eq_nil_iff.mp split.symm).2 nonempty
  | @literal c rest row stands spelled ih =>
      obtain ⟨spans, written, woven, literal⟩ := ih
      rw [ofParts_literal]
      generalize ofParts row = template at *
      obtain ⟨opening, slots⟩ := template
      rw [pieces_mk] at woven literal ⊢
      rw [String.toList_ofList]
      refine ⟨spans, written, by rw [weave_cons, woven], ?_⟩
      intro place inside
      rcases inside.of_cons with rfl | inside
      · -- The place is the text itself, of which the row says that `c` stands for itself.
        rw [← woven]
        exact stands
      · exact literal place inside
  | @slot slot span rest row spelledSlot spelled ih =>
      obtain ⟨spans, written, woven, literal⟩ := ih
      rw [ofParts_slot]
      generalize ofParts row = template at *
      obtain ⟨opening, slots⟩ := template
      rw [pieces_mk] at woven literal ⊢
      -- The piece in front of the slot is empty, so nothing is to be shown of its places.
      refine ⟨span :: spans, .cons spelledSlot written, ?_, ?_⟩
      · rw [woven]
        rfl
      · intro place inside
        exact literal place inside.of_nil

end Template

namespace Phrase

open Template

/-- **Lossless split.** The text of a template is its fragments with one written form of each
slot between them, in order. Whatever begins inside a fragment is no slot, and no beginning of a
slot up to the brace of its settings. A text without the mark of a slot is kept as it is. -/
theorem compile_splits (raw : String) :
    (∀ template, compile raw = .ok (.template template) →
      ∃ spans, List.Forall₂ SlotText (template.slots.map (·.1)) spans ∧
        raw.toList = weave template.pieces spans ∧
        ∀ place, InPiece template.pieces spans place →
          ¬ BeginsSlot place ∧ ¬ BeginsSettings place) ∧
    (¬ openMark <:+: raw.toList → compile raw = .ok (.plain raw)) := by
  constructor
  · intro template success
    obtain ⟨-, row, spelled, rfl⟩ := compile_eq_template_iff.mp success
    obtain ⟨spans, written, woven, literal⟩ := spelled.woven
    refine ⟨spans, written, woven, fun place inside => ?_⟩
    exact ⟨(literal place inside).noSlot, (literal place inside).noSettings⟩
  · intro unmarked
    exact compile_eq_plain_iff.mpr ⟨unmarked, rfl⟩

/-- Of three braces the last two open a slot. -/
example : compile "\x7b\x7b\x7ba\x7d\x7d" = .ok (.template ⟨"\x7b", [(⟨"a", none⟩, "")]⟩) := by
  rfl

end Phrase

end Phrasebook
