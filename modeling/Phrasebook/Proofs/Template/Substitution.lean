import Phrasebook.Proofs.Template.Split
import Phrasebook.Template.Render
import Mathlib

/-!
# Rendering as substitution

A rendered text is the text of the phrase with every written slot replaced by what the slot shows,
and every other character in its place (`render_substitutes`): the compiled text and the rendered
one are woven from the same pieces. What a slot shows is the judgment `Slot.Shows`. It looks up
one parameter, its own, so a value under any other name cannot reach the text.
-/

namespace Phrasebook

/-! ## What a slot shows -/

/-- A text that a slot shows. The formatter gets the value, its own settings with those of the
slot put over them, and the formatters and settings around it, but no parameters. -/
inductive Slot.Shows (scope : Scope) (params : Params) (slot : Slot) : String → Prop
  | unbound : params.get? slot.parameter = none →
      Shows scope params slot ("\x7b\x7b" ++ slot.parameter ++ "\x7d\x7d")
  | plain {value : Value} : params.get? slot.parameter = some value → slot.call = none →
      Shows scope params slot value.plainText
  | unregistered {value : Value} {call : Call} : params.get? slot.parameter = some value →
      slot.call = some call → scope.formatters.get? call.formatter = none →
      Shows scope params slot value.plainText
  | formatted {value : Value} {call : Call} {formatter : Formatter} :
      params.get? slot.parameter = some value → slot.call = some call →
      scope.formatters.get? call.formatter = some formatter →
      Shows scope params slot (formatter value
        (.merge (scope.settings.get? call.formatter) call.settings)
        (scope.contextWithin (Scope.nesting - 1)))

namespace Slot

variable {scope : Scope} {params other : Params} {slot : Slot}

theorem shows_render (scope : Scope) (params : Params) (slot : Slot) :
    slot.Shows scope params (slot.render scope params) := by
  unfold Slot.render
  cases bound : params.get? slot.parameter with
  | none => exact .unbound bound
  | some value =>
      cases called : slot.call with
      | none => exact .plain bound called
      | some call =>
          cases found : scope.formatters.get? call.formatter with
          | none =>
              have absent : scope.formatters.contains call.formatter = false := by
                rw [Table.contains, found, Option.isSome_none]
              simp only [absent, Bool.false_eq_true, if_false]
              exact .unregistered bound called found
          | some formatter =>
              have present : scope.formatters.contains call.formatter = true := by
                rw [Table.contains, found, Option.isSome_some]
              simp only [present, if_true]
              rw [Scope.format_registered found]
              exact .formatted bound called found

/-- A slot shows one text, the one it is rendered as. -/
theorem shows_iff {text : String} :
    slot.Shows scope params text ↔ slot.render scope params = text := by
  constructor
  · intro shown
    unfold Slot.render
    cases shown with
    | unbound bound => simp only [bound, missText]
    | plain bound called => simp only [bound, called]
    | unregistered bound called absent => simp [bound, called, Table.contains, absent]
    | formatted bound called registered =>
        simp [bound, called, Table.contains, registered, Scope.format_registered registered]
  · rintro rfl
    exact shows_render scope params slot

/-- A slot looks at its own parameter alone. -/
theorem render_congr (agree : params.get? slot.parameter = other.get? slot.parameter) :
    slot.render scope params = slot.render scope other := by
  unfold Slot.render
  rw [agree]

end Slot

/-! ## Weaving the rendered text -/

namespace Template

theorem toList_render (scope : Scope) (params : Params) (template : Template) :
    (template.render scope params).toList =
      weave template.pieces (template.slots.map fun slot =>
        (slot.1.render scope params).toList) := by
  obtain ⟨opening, slots⟩ := template
  rw [pieces_mk]
  induction slots generalizing opening with
  | nil => simp [Template.render, weave]
  | cons slot slots ih =>
      -- The text behind the first slot opens the template of the other slots.
      have behind := ih slot.2
      simp only [Template.render, String.toList_append] at behind ⊢
      simp only [List.map_cons, weave, String.join_cons, String.toList_append]
      rw [← behind]
      simp only [List.append_assoc]

/-- No slot begins anywhere in a text without two braces. -/
theorem literal_of_unmarked {text place : List Char} (unmarked : ¬ openMark <:+: text)
    (within : place <:+ text) : Literal place := by
  have apart : ∀ {inner}, place ≠ '{' :: '{' :: inner := by
    rintro inner rfl
    exact unmarked (List.IsInfix.trans ⟨[], inner, rfl⟩ within.isInfix)
  constructor
  · rintro ⟨slot, span, rest, spelled, rfl⟩
    obtain ⟨inner, rfl⟩ := spelled.braces
    exact apart rfl
  · rintro ⟨clause, begins⟩
    obtain ⟨inner, braces⟩ := begins.braces
    exact apart braces

end Template

namespace Phrase

open Template

/-- The slots of a phrase in order; plain text has none. -/
def slots : Phrase → List Slot
  | .plain _ => []
  | .template parts => parts.slots.map (·.1)

/-- The literal pieces of a phrase in order. -/
def pieces : Phrase → List (List Char)
  | .plain text => [text.toList]
  | .template parts => parts.pieces

/-- The names of the parameters of a phrase in order. -/
def parameters : Phrase → List String
  | .plain _ => []
  | .template parts => parts.parameters

/-- What the slots of a phrase show, in order. -/
def slotTexts (scope : Scope) (params : Params) (phrase : Phrase) : List String :=
  phrase.slots.map (·.render scope params)

theorem map_parameter_slots (phrase : Phrase) :
    phrase.slots.map (·.parameter) = phrase.parameters := by
  cases phrase with
  | plain text => rfl
  | template parts => simp [slots, parameters, Template.parameters, Function.comp_def]

theorem length_pieces (phrase : Phrase) : phrase.pieces.length = phrase.slots.length + 1 := by
  cases phrase with
  | plain text => rfl
  | template parts => simp [pieces, slots, Template.pieces, length_fragments]

theorem toList_render (scope : Scope) (params : Params) (phrase : Phrase) :
    (phrase.render scope params).toList =
      weave phrase.pieces ((phrase.slotTexts scope params).map String.toList) := by
  cases phrase with
  | plain text => simp [Phrase.render, pieces, slotTexts, slots, weave]
  | template parts =>
      rw [Phrase.render, Template.toList_render]
      simp [pieces, slotTexts, slots, Function.comp_def]

/-- The text of a phrase is woven from its pieces and its slots as they are written, and nothing
else of it is a slot. -/
theorem woven_of_compile {raw : String} {phrase : Phrase} (accepted : compile raw = .ok phrase) :
    ∃ spans, List.Forall₂ SlotText phrase.slots spans ∧
      raw.toList = weave phrase.pieces spans ∧
      ∀ place, InPiece phrase.pieces spans place → Literal place := by
  cases phrase with
  | plain text =>
      obtain ⟨unmarked, rfl⟩ := compile_eq_plain_iff.mp accepted
      refine ⟨[], .nil, by simp [pieces, weave], ?_⟩
      intro place inside
      cases inside with
      | @here _ before after _ _ split nonempty =>
          refine literal_of_unmarked unmarked ⟨before, ?_⟩
          rw [split]
          simp [weave]
  | template parts =>
      obtain ⟨-, row, spelled, rfl⟩ := compile_eq_template_iff.mp accepted
      exact spelled.woven

/-- The texts that the slots of a phrase show are those that they are rendered as. -/
theorem forall₂_shows_iff {scope : Scope} {params : Params} {phrase : Phrase}
    {texts : List String} :
    List.Forall₂ (Slot.Shows scope params) phrase.slots texts ↔
      texts = phrase.slotTexts scope params := by
  have rendered : Slot.Shows scope params = fun slot text => slot.render scope params = text := by
    funext slot text
    exact propext Slot.shows_iff
  rw [rendered, ← List.forall₂_map_left_iff, List.forall₂_eq_eq_eq, eq_comm, slotTexts]

/-- Where two sets of parameters have the same value for a slot, it shows the same. -/
theorem getElem?_slotTexts_congr {phrase : Phrase} {scope : Scope} {params other : Params}
    {index : Nat} {slot : Slot} (found : phrase.slots[index]? = some slot)
    (agree : params.get? slot.parameter = other.get? slot.parameter) :
    (phrase.slotTexts scope params)[index]? = (phrase.slotTexts scope other)[index]? := by
  simp only [slotTexts, List.getElem?_map, found, Option.map_some, Slot.render_congr agree]

/-- **Rendering substitutes.** The text of a phrase and what it shows are woven from the same
pieces, the text with the slots as they are written and the other with one text for each slot.
Those texts follow from the parameters of the slots: parameters that agree on them show the same,
and parameters that differ at one name show the same in every slot of another name. -/
theorem render_substitutes {raw : String} {phrase : Phrase} (accepted : compile raw = .ok phrase)
    (scope : Scope) :
    phrase.pieces.length = phrase.slots.length + 1 ∧
    (∃ spans, List.Forall₂ SlotText phrase.slots spans ∧
      raw.toList = weave phrase.pieces spans ∧
      ∀ place, InPiece phrase.pieces spans place → Literal place) ∧
    (∀ params, (phrase.render scope params).toList =
        weave phrase.pieces ((phrase.slotTexts scope params).map String.toList) ∧
      ∀ texts, List.Forall₂ (Slot.Shows scope params) phrase.slots texts ↔
        texts = phrase.slotTexts scope params) ∧
    (∀ params other : Params,
      (∀ name ∈ phrase.parameters, params.get? name = other.get? name) →
      phrase.render scope params = phrase.render scope other) ∧
    ∀ (name : String) (params other : Params),
      (∀ key, key ≠ name → params.get? key = other.get? key) →
      ∀ (index : Nat) (slot : Slot), phrase.slots[index]? = some slot → slot.parameter ≠ name →
        (phrase.slotTexts scope params)[index]? = (phrase.slotTexts scope other)[index]? := by
  refine ⟨length_pieces phrase, woven_of_compile accepted, ?_, ?_, ?_⟩
  · intro params
    exact ⟨toList_render scope params phrase, fun texts => forall₂_shows_iff⟩
  · intro params other agree
    rw [← map_parameter_slots, List.forall_mem_map] at agree
    have same : phrase.slotTexts scope params = phrase.slotTexts scope other :=
      List.map_congr_left fun slot member => Slot.render_congr (agree slot member)
    rw [← String.toList_inj, toList_render, toList_render, same]
  · intro name params other agree index slot found different
    exact getElem?_slotTexts_congr found (agree slot.parameter different)

/-- A name that occurs twice with a value that looks like a slot, and another name in between. -/
theorem render_substitutes_slot_in_value :
    let raw :=
      "\x7b\x7ba, mark, \x7b\"k\":1\x7d \x7d\x7d: \x7b\x7b b \x7d\x7d, \x7b\x7ba\x7d\x7d \x7b\x7b"
    let mark : Formatter := fun value settings _ => settings.compact ++ value.plainText
    let scope : Scope := ⟨.ofEntries [("mark", mark)], .empty⟩
    let marked : Slot := ⟨"a", some ⟨"mark", some (.object [("k", .integer 1)])⟩⟩
    let phrase : Phrase := .template ⟨"", [(marked, ": "), (⟨"b", none⟩, ", "),
      (⟨"a", none⟩, " \x7b\x7b")]⟩
    let first : Params := .ofEntries [("a", .text "\x7b\x7bb\x7d\x7d"), ("b", .number 1)]
    compile raw = .ok phrase ∧
      phrase.render scope first =
        "\x7b\"k\":1\x7d\x7b\x7bb\x7d\x7d: 1, \x7b\x7bb\x7d\x7d \x7b\x7b" ∧
      "c" ∉ phrase.parameters ∧
      phrase.render scope (first.insert "c" (.number 2)) = phrase.render scope first ∧
      phrase.slotTexts scope (first.erase "b") =
        ["\x7b\"k\":1\x7d\x7b\x7bb\x7d\x7d", "\x7b\x7bb\x7d\x7d", "\x7b\x7bb\x7d\x7d"] ∧
      (phrase.slotTexts scope (first.erase "b"))[0]? = (phrase.slotTexts scope first)[0]? := by
  intro raw mark scope marked phrase first
  have accepted : compile raw = .ok phrase := by cbv
  have unnamed : "c" ∉ phrase.parameters := by decide +kernel
  obtain ⟨-, -, woven, named, apart⟩ := render_substitutes accepted scope
  refine ⟨accepted, ?_, unnamed, ?_, by decide +kernel, ?_⟩
  · rw [← String.toList_inj, (woven first).1]
    decide +kernel
  · apply named
    intro name member
    have different : name ≠ "c" := fun same => unnamed (same ▸ member)
    exact Table.get?_insert_of_ne first different (.number 2)
  · apply apart "b" _ _ _ 0 marked rfl (by decide)
    intro key different
    rw [Table.get?_erase, if_neg different]

end Phrase

end Phrasebook
