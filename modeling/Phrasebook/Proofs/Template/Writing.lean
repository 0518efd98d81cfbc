import Phrasebook.Proofs.Template.Split
import Mathlib

/-!
# Written templates

A phrase is written as a row of segments: literal text, in which no opening brace stands, and slots,
each in any of its written forms with blanks wherever they may stand. `compile_written` says that
compiling the text of such a row gives back what was written: the slots, and between them the
literal texts, neighbouring ones joined. A slot is read to its end whatever its settings contain,
because their text is that of an object, which ends itself.
-/

namespace Phrasebook

namespace Template

/-- A segment of a phrase as it is written. -/
inductive Segment where
  | literal (text : List Char) (braceless : '{' ∉ text)
  | slot (written : Slot) (span : List Char) (spelled : SlotText written span)

namespace Segment

def text : Segment → List Char
  | .literal text _ => text
  | .slot _ span _ => span

def slot? : Segment → Option Slot
  | .literal _ _ => none
  | .slot written _ _ => some written

def isSlot : Segment → Bool
  | .literal _ _ => false
  | .slot _ _ _ => true

/-- The parts that a segment spells. -/
def row : Segment → List Part
  | .literal text _ => text.map .literal
  | .slot written _ _ => [.slot written]

end Segment

/-! ## The text of segments -/

/-- Only a brace can begin a slot. -/
theorem literal_of_ne_brace {c : Char} (plain : c ≠ '{') (rest : List Char) :
    Literal (c :: rest) := by
  constructor
  · rintro ⟨slot, span, behind, spelled, split⟩
    obtain ⟨inner, rfl⟩ := spelled.braces
    exact plain (List.cons.inj split).1
  · rintro ⟨clause, begins⟩
    obtain ⟨inner, split⟩ := begins.braces
    exact plain (List.cons.inj split).1

theorem Spells.literals {text rest : List Char} {row : List Part} (braceless : '{' ∉ text)
    (spelled : Spells row rest) : Spells (text.map .literal ++ row) (text ++ rest) := by
  induction text with
  | nil => exact spelled
  | cons c text ih =>
      rw [List.mem_cons, not_or] at braceless
      exact .literal (literal_of_ne_brace (Ne.symm braceless.1) _) (ih braceless.2)

/-- The parts of segments spell the text of the segments. -/
theorem spells_segments (segments : List Segment) :
    Spells (segments.flatMap Segment.row) (segments.flatMap Segment.text) := by
  induction segments with
  | nil => exact .nil
  | cons segment rest ih =>
      rw [List.flatMap_cons, List.flatMap_cons]
      cases segment with
      | literal text braceless => exact ih.literals braceless
      | slot slot span spelled => exact .slot spelled ih

/-- The text of segments has the mark of a slot iff one of them is a slot. -/
theorem marked_segments_iff {segments : List Segment} :
    openMark <:+: segments.flatMap Segment.text ↔ segments.filterMap Segment.slot? ≠ [] := by
  constructor
  · intro marked noSlot
    have brace : '{' ∈ segments.flatMap Segment.text := marked.subset List.mem_cons_self
    obtain ⟨segment, member, inside⟩ := List.mem_flatMap.mp brace
    cases segment with
    | literal text braceless => exact braceless inside
    | slot slot span spelled =>
        have absent := List.filterMap_eq_nil_iff.mp noSlot _ member
        cases absent
  · intro slots
    obtain ⟨slot, inside⟩ := List.exists_mem_of_ne_nil _ slots
    obtain ⟨segment, member, same⟩ := List.mem_filterMap.mp inside
    cases segment with
    | literal text braceless => cases same
    | slot slot span spelled =>
        obtain ⟨front, back, rfl⟩ := List.append_of_mem member
        obtain ⟨inner, rfl⟩ := spelled.braces
        rw [List.flatMap_append, List.flatMap_cons]
        exact ⟨front.flatMap Segment.text, inner ++ back.flatMap Segment.text, by
          simp [openMark, Segment.text]⟩

/-! ## The template of segments -/

theorem ofParts_literals (text : List Char) (row : List Part) :
    ofParts (text.map .literal ++ row) =
      ⟨String.ofList (text ++ (ofParts row).opening.toList), (ofParts row).slots⟩ := by
  induction text with
  | nil => simp
  | cons c text ih =>
      rw [List.map_cons, List.cons_append, ofParts_literal, ih, String.toList_ofList]
      rfl

/-- The slots of the template are those of the segments. -/
theorem slots_segments (segments : List Segment) :
    (ofParts (segments.flatMap Segment.row)).slots.map (·.1) =
      segments.filterMap Segment.slot? := by
  induction segments with
  | nil => rfl
  | cons segment rest ih =>
      rw [List.flatMap_cons]
      cases segment with
      | literal text braceless =>
          rw [Segment.row, ofParts_literals]
          exact ih
      | slot slot span spelled =>
          rw [Segment.row, List.singleton_append, ofParts_slot, List.map_cons, ih]
          rfl

/-- The fragments of the template are the runs of literal segments between slots. -/
theorem fragments_segments (segments : List Segment) :
    (ofParts (segments.flatMap Segment.row)).fragments =
      (segments.splitOnP Segment.isSlot).map fun run =>
        String.ofList (run.flatMap Segment.text) := by
  induction segments with
  | nil => rfl
  | cons segment rest ih =>
      rw [List.flatMap_cons, List.splitOnP_cons_eq_if_modifyHead]
      cases segment with
      | literal text braceless =>
          -- The text goes in front of the first run.
          rw [Segment.row, ofParts_literals]
          obtain ⟨first, others, runs⟩ :=
            List.exists_cons_of_ne_nil (List.splitOnP_ne_nil Segment.isSlot rest)
          rw [runs, fragments, List.map_cons, List.cons.injEq] at ih
          rw [runs, fragments, ih.1, ih.2, String.toList_ofList]
          rfl
      | slot slot span spelled =>
          rw [Segment.row, List.singleton_append, ofParts_slot]
          rw [fragments] at ih ⊢
          rw [List.map_cons, ih]
          rfl

end Template

namespace Phrase

open Template

/-- **Compiling what is written.** The text of a row of segments compiles: without a slot it is kept
as it is, and with slots it is the template of these slots in order, whose fragments are the
literal texts in front of, between and behind them, joined where there are several and empty where
there is none. -/
theorem compile_written (segments : List Segment) :
    let raw := String.ofList (segments.flatMap Segment.text)
    (segments.filterMap Segment.slot? = [] → compile raw = .ok (.plain raw)) ∧
    (segments.filterMap Segment.slot? ≠ [] →
      ∃ template, compile raw = .ok (.template template) ∧
        template.slots.map (·.1) = segments.filterMap Segment.slot? ∧
        template.fragments = (segments.splitOnP Segment.isSlot).map fun run =>
          String.ofList (run.flatMap Segment.text)) := by
  intro raw
  have chars : raw.toList = segments.flatMap Segment.text := String.toList_ofList
  constructor
  · intro noSlot
    refine compile_eq_plain_iff.mpr ⟨?_, rfl⟩
    rw [chars, marked_segments_iff]
    exact fun slots => slots noSlot
  · intro slots
    refine ⟨_, compile_eq_template_iff.mpr ⟨?_, _, ?_, rfl⟩, slots_segments segments,
      fragments_segments segments⟩
    · rw [chars]
      exact marked_segments_iff.mpr slots
    · rw [chars]
      exact spells_segments segments

/-- Two slots that touch, the second with blanks around its comma and with the end of a slot inside
its settings, between literal texts of which two are neighbours. -/
theorem compile_written_touching_slots :
    let settings : Settings := .object [("k", .string "\x7d\x7d")]
    let raw := "xy\x7b\x7ba\x7d\x7d\x7b\x7bn ,f,\t\x7b\"k\":\"\x7d\x7d\"\x7d\x7d\x7d!"
    ∃ segments : List Segment,
      String.ofList (segments.flatMap Segment.text) = raw ∧
      segments.filterMap Segment.slot? = [⟨"a", none⟩, ⟨"n", some ⟨"f", some settings⟩⟩] ∧
      segments.filterMap Segment.slot? ≠ [] ∧
      ∃ template, compile raw = .ok (.template template) ∧
        template.slots.map (·.1) = [⟨"a", none⟩, ⟨"n", some ⟨"f", some settings⟩⟩] ∧
        template.fragments = ["xy", "", "!"] := by
  intro settings raw
  have noBlanks : Blanks [] := nofun
  have blank : Blanks [' '] := List.forall_mem_singleton.mpr rfl
  have tab : Blanks ['\t'] := List.forall_mem_singleton.mpr rfl
  have closing := Closing.intro noBlanks
  have first := SlotText.intro
    (@OpeningText.intro [] ['a'] noBlanks (.intro (by decide) nofun)) .absent closing
  have object : Json.ObjectText "\x7b\"k\":\"\x7d\x7d\"\x7d".toList settings := ⟨by rfl, by rfl⟩
  have second := SlotText.intro
    (@OpeningText.intro [] ['n'] noBlanks (.intro (by decide) nofun))
    (.withSettings (@FormatterText.intro _ ['f'] (.intro blank noBlanks) (.intro (by decide) nofun))
      (.intro noBlanks tab) object) closing
  let segments : List Segment :=
    [.literal ['x'] (by decide), .literal ['y'] (by decide), .slot _ _ first, .slot _ _ second,
      .literal ['!'] (by decide)]
  have spelled : String.ofList (segments.flatMap Segment.text) = raw := by rfl
  have slots : segments.filterMap Segment.slot? ≠ [] := by simp [segments, Segment.slot?]
  obtain ⟨template, compiled, same, fragments⟩ := (compile_written segments).2 slots
  rw [spelled] at compiled
  exact ⟨segments, spelled, rfl, slots, template, compiled, same, fragments.trans (by rfl)⟩

end Phrase

end Phrasebook
