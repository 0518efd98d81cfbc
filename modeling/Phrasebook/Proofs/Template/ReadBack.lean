import Phrasebook.Proofs.Template.Split
import Phrasebook.Template.Render
import Mathlib

/-!
# Reading a rendered phrase back

Rendered without any values a template shows every slot as its parameter in double braces, which
is itself a written slot. `render_reads_back` says that compiling this text gives the template
back, without formatters and settings.

The text between two slots is read as before because nothing that is read from it goes beyond the
two braces of the next slot: every reader below `readSlot` stops at a brace, and only the start of
settings takes one. So whether a character stands for itself is decided in front of the next slot
(`Literal.of_agree`), whatever is written in that slot.
-/

namespace Phrasebook

namespace Template

/-! ## Reading in front of a brace -/

theorem dropWhile_append_brace {within : Char → Bool} (outside : within '{' = false)
    (text rest : List Char) :
    (text ++ '{' :: rest).dropWhile within = text.dropWhile within ++ '{' :: rest := by
  induction text with
  | nil => simp [outside]
  | cons c text ih =>
      rw [List.cons_append, List.dropWhile_cons, List.dropWhile_cons]
      split
      · exact ih
      · rfl

theorem takeWhile_append_brace {within : Char → Bool} (outside : within '{' = false)
    (text rest : List Char) :
    (text ++ '{' :: rest).takeWhile within = text.takeWhile within := by
  induction text with
  | nil => simp [outside]
  | cons c text ih =>
      rw [List.cons_append, List.takeWhile_cons, List.takeWhile_cons, ih]

theorem skipBlanks_append_brace (text rest : List Char) :
    skipBlanks (text ++ '{' :: rest) = skipBlanks text ++ '{' :: rest :=
  dropWhile_append_brace (by decide) text rest

theorem readComma?_append_brace (text rest : List Char) :
    readComma? (text ++ '{' :: rest) = (readComma? text).map (· ++ '{' :: rest) := by
  unfold readComma?
  rw [skipBlanks_append_brace]
  cases skipBlanks text with
  | nil => rfl
  | cons c left =>
      by_cases comma : c = ','
      · subst comma
        simp only [List.cons_append, Option.map_some, skipBlanks_append_brace]
      · simp [comma]

theorem readClose?_append_brace (text rest : List Char) :
    readClose? (text ++ '{' :: rest) = (readClose? text).map (· ++ '{' :: rest) := by
  unfold readClose?
  rw [skipBlanks_append_brace]
  rcases skipBlanks text with - | ⟨c, - | ⟨d, left⟩⟩
  · rfl
  · by_cases brace : c = '}' <;> simp [brace]
  · by_cases brace : c = '}' <;> by_cases other : d = '}' <;> simp [brace, other]

theorem readParameter?_append_brace (text rest : List Char) :
    readParameter? (text ++ '{' :: rest) =
      (readParameter? text).map fun found => (found.1, found.2 ++ '{' :: rest) := by
  unfold readParameter?
  rw [takeWhile_append_brace (by decide), dropWhile_append_brace (by decide)]
  cases text.takeWhile isLower <;> rfl

theorem readFormatter?_append_brace (text rest : List Char) :
    readFormatter? (text ++ '{' :: rest) =
      (readFormatter? text).map fun found => (found.1, found.2 ++ '{' :: rest) := by
  cases text with
  | nil => rfl
  | cons first text =>
      simp only [List.cons_append, readFormatter?]
      rw [takeWhile_append_brace (by decide), dropWhile_append_brace (by decide)]
      split <;> rfl

/-- Two braces behind a text are not part of the head of a slot. -/
theorem readHead?_append_braces {text : List Char} (nonempty : text ≠ []) (rest : List Char) :
    readHead? (text ++ '{' :: '{' :: rest) =
      (readHead? text).map fun found => (found.1, found.2.1, found.2.2 ++ '{' :: '{' :: rest) := by
  have opened : ((readOpen? (text ++ '{' :: '{' :: rest)).bind fun opened =>
        readParameter? (skipBlanks opened)) =
      ((readOpen? text).bind fun opened => readParameter? (skipBlanks opened)).map
        fun found => (found.1, found.2 ++ '{' :: '{' :: rest) := by
    rcases text with - | ⟨c, - | ⟨d, text⟩⟩
    · exact absurd rfl nonempty
    · -- One brace of the two completes the mark, and the other is no letter.
      by_cases brace : c = '{'
      · subst brace
        rfl
      · simp [readOpen?, brace]
    · -- Two characters decide about the mark, and the name ends in front of a brace.
      by_cases brace : c = '{' <;> by_cases other : d = '{'
      · subst brace other
        simp only [List.cons_append, readOpen?, Option.bind_some]
        rw [skipBlanks_append_brace, readParameter?_append_brace]
      all_goals simp [readOpen?, brace, other]
  rw [readHead?_eq, readHead?_eq, opened]
  cases (readOpen? text).bind fun opened => readParameter? (skipBlanks opened) with
  | none => rfl
  | some found =>
      obtain ⟨parameter, behind⟩ := found
      simp only [Option.map_some, Option.bind_some]
      rw [readComma?_append_brace]
      cases readComma? behind with
      | none => rfl
      | some named =>
          simp only [Option.map_some, Option.bind_some]
          rw [readFormatter?_append_brace]
          cases readFormatter? named <;> rfl

/-- Whether settings begin in front of a brace does not depend on what follows the brace. -/
theorem readSettingsStart?_eq_none_of_brace {text rest : List Char} (other : List Char)
    (absent : readSettingsStart? (text ++ '{' :: rest) = none) :
    readSettingsStart? (text ++ '{' :: other) = none := by
  unfold readSettingsStart? at *
  rw [readComma?_append_brace] at *
  cases comma : readComma? text with
  | none => rfl
  | some left =>
      rw [comma] at absent
      -- With nothing left behind the comma the brace itself would begin the settings.
      cases left with
      | nil => simp at absent
      | cons c left =>
          by_cases brace : c = '{'
          · simp [brace] at absent
          · simp [brace]

/-- Whether a slot is read in front of two braces does not depend on what follows them. -/
theorem readSlot_eq_none_of_braces {text rest : List Char} (nonempty : text ≠ [])
    (other : List Char) (nothing : readSlot (text ++ '{' :: '{' :: rest) = .ok none) :
    readSlot (text ++ '{' :: '{' :: other) = .ok none := by
  have closing : ∀ {left : List Char} {result : List Char → Slot × List Char},
      (readClose? (left ++ '{' :: '{' :: rest)).map result = none →
      (readClose? (left ++ '{' :: '{' :: other)).map result = none := by
    intro left result absent
    rw [readClose?_append_brace] at *
    cases closed : readClose? left with
    | none => rfl
    | some behind => simp [closed] at absent
  unfold readSlot at *
  rw [readHead?_append_braces nonempty] at *
  cases head : readHead? text with
  | none => rfl
  | some found =>
      obtain ⟨parameter, named, left⟩ := found
      rw [head] at nothing
      cases named with
      | none =>
          simp only [Option.map_some, Except.ok.injEq] at nothing ⊢
          exact closing nothing
      | some formatter =>
          simp only [Option.map_some] at nothing ⊢
          cases start : readSettingsStart? (left ++ '{' :: '{' :: rest) with
          | some clause =>
              -- Settings that begin are read or fail, so they cannot begin here.
              rw [start] at nothing
              exact absurd nothing (readSettingsEnd_ne_none parameter formatter clause)
          | none =>
              rw [start] at nothing
              rw [readSettingsStart?_eq_none_of_brace ('{' :: other) start]
              simp only [Except.ok.injEq] at nothing ⊢
              exact closing nothing

/-- Two texts that are the same up to their end or up to two braces in both. -/
def AgreeToBraces (text other : List Char) : Prop :=
  text = other ∨ ∃ front rest otherRest,
    text = front ++ '{' :: '{' :: rest ∧ other = front ++ '{' :: '{' :: otherRest

theorem AgreeToBraces.cons {text other : List Char} (agree : AgreeToBraces text other)
    (c : Char) : AgreeToBraces (c :: text) (c :: other) := by
  rcases agree with rfl | ⟨front, rest, otherRest, rfl, rfl⟩
  · exact .inl rfl
  · exact .inr ⟨c :: front, rest, otherRest, rfl, rfl⟩

theorem AgreeToBraces.marked {text other : List Char}
    (agree : AgreeToBraces text other) (marked : openMark <:+: text) : openMark <:+: other := by
  rcases agree with rfl | ⟨front, rest, otherRest, rfl, rfl⟩
  · exact marked
  · exact ⟨front, otherRest, by simp [openMark]⟩

/-- A character that stands for itself still does if the text changes behind two braces. -/
theorem Literal.of_agree {c : Char} {text other : List Char} (stands : Literal (c :: text))
    (agree : AgreeToBraces text other) : Literal (c :: other) := by
  rcases agree with rfl | ⟨front, rest, otherRest, rfl, rfl⟩
  · exact stands
  · rw [← List.cons_append] at *
    rw [← readSlot_eq_none_iff] at *
    exact readSlot_eq_none_of_braces (List.cons_ne_nil c front) otherRest stands

end Template

/-! ## Phrases without formatters and settings -/

/-- The slot with its parameter alone. -/
def Slot.bare (slot : Slot) : Slot := { slot with call := none }

namespace Template

/-- The template with every slot bare. -/
def bare (template : Template) : Template :=
  { template with slots := template.slots.map fun slot => (slot.1.bare, slot.2) }

/-- The part with its slot bare. -/
def Part.bare : Part → Part
  | .literal c => .literal c
  | .slot found => .slot found.bare

/-- What a part shows when it is rendered. -/
def Part.shown (scope : Scope) (params : Params) : Part → List Char
  | .literal c => [c]
  | .slot found => (found.render scope params).toList

theorem ofParts_bare (row : List Part) : ofParts (row.map Part.bare) = (ofParts row).bare := by
  induction row with
  | nil => rfl
  | cons part row ih =>
      cases part with
      | literal c =>
          rw [List.map_cons, Part.bare, ofParts_literal, ofParts_literal, ih]
          rfl
      | slot slot =>
          rw [List.map_cons, Part.bare, ofParts_slot, ofParts_slot, ih]
          rfl

/-- A template is rendered part by part. -/
theorem toList_render_ofParts (scope : Scope) (params : Params) (row : List Part) :
    ((ofParts row).render scope params).toList = row.flatMap (Part.shown scope params) := by
  induction row with
  | nil => simp [ofParts_nil, Template.render]
  | cons part row ih =>
      rw [List.flatMap_cons, ← ih]
      cases part with
      | literal c =>
          rw [ofParts_literal]
          simp [Template.render, Part.shown]
      | slot slot =>
          rw [ofParts_slot]
          simp [Template.render, Part.shown]

end Template

/-! ## Rendering without values -/

theorem Slot.render_empty (scope : Scope) (slot : Slot) :
    slot.render scope .empty = missText slot.parameter := rfl

theorem Slot.toList_render_empty (scope : Scope) (slot : Slot) :
    (slot.render scope .empty).toList =
      '{' :: '{' :: (slot.parameter.toList ++ ['}', '}']) := by
  simp [Slot.render_empty, missText]

namespace Template

/-- What a slot shows without values is its bare form. -/
theorem SlotText.render_empty {slot : Slot} {span : List Char} (spelled : SlotText slot span)
    (scope : Scope) : SlotText slot.bare (slot.render scope .empty).toList := by
  rw [Slot.toList_render_empty]
  cases spelled with
  | intro opened called closed =>
      cases opened with
      | @intro blanks name all letters =>
          have noBlanks : Blanks [] := fun c member => absurd member List.not_mem_nil
          have written := SlotText.intro (.intro noBlanks letters) .absent (.intro noBlanks)
          simpa [openMark, Slot.bare] using written

/-- A text and what its parts show without values are the same up to the first slot. -/
theorem Spells.agree {row : List Part} {text : List Char} (spelled : Spells row text)
    (scope : Scope) : AgreeToBraces text (row.flatMap (Part.shown scope .empty)) := by
  induction spelled with
  | nil => exact .inl rfl
  | literal _ _ ih => exact ih.cons _
  | @slot slot span rest row written _ _ =>
      -- Both texts begin with two braces here, whatever follows.
      obtain ⟨inner, rfl⟩ := written.braces
      refine .inr ⟨[], inner ++ rest, slot.parameter.toList ++ ['}', '}'] ++
        row.flatMap (Part.shown scope .empty), rfl, ?_⟩
      rw [List.flatMap_cons, Part.shown, Slot.toList_render_empty]
      simp

/-- What a row of parts shows without values is spelled by the row with bare slots. -/
theorem Spells.shown {row : List Part} {text : List Char} (spelled : Spells row text)
    (scope : Scope) :
    Spells (row.map Part.bare) (row.flatMap (Part.shown scope .empty)) := by
  induction spelled with
  | nil => exact .nil
  | literal stands spelled ih => exact .literal (stands.of_agree (spelled.agree scope)) ih
  | slot written _ ih => exact .slot (written.render_empty scope) ih

theorem fragments_bare (template : Template) : template.bare.fragments = template.fragments := by
  simp [bare, fragments, Function.comp_def]

theorem parameters_bare (template : Template) :
    template.bare.parameters = template.parameters := by
  simp [bare, parameters, Slot.bare, Function.comp_def]

theorem call_of_mem_bare {template : Template} {slot : Slot × String}
    (member : slot ∈ template.bare.slots) : slot.1.call = none := by
  obtain ⟨old, -, rfl⟩ := List.mem_map.mp member
  rfl

/-- Without values a formatter makes no difference. -/
theorem render_bare_empty (template : Template) (scope other : Scope) :
    template.bare.render other .empty = template.render scope .empty := by
  simp [bare, Template.render, Slot.render_empty, Slot.bare, Function.comp_def]

end Template

namespace Phrase

open Template

/-- The phrase with every slot bare. -/
def bare : Phrase → Phrase
  | .plain text => .plain text
  | .template parts => .template parts.bare

/-- What a phrase shows without values compiles to the phrase with bare slots. -/
theorem compile_render_empty {raw : String} {phrase : Phrase} (scope : Scope)
    (accepted : compile raw = .ok phrase) :
    compile (phrase.render scope .empty) = .ok phrase.bare := by
  cases phrase with
  | plain text =>
      obtain ⟨unmarked, rfl⟩ := compile_eq_plain_iff.mp accepted
      exact accepted
  | template template =>
      obtain ⟨marked, row, spelled, rfl⟩ := compile_eq_template_iff.mp accepted
      refine compile_eq_template_iff.mpr ⟨?_, row.map Part.bare, ?_, (ofParts_bare row).symm⟩
      · rw [Phrase.render, toList_render_ofParts]
        exact (spelled.agree scope).marked marked
      · rw [Phrase.render, toList_render_ofParts]
        exact spelled.shown scope

/-- **Reading back.** What a phrase shows without values compiles again: to plain text iff the
phrase is plain, and otherwise to a template with the same fragments and the same parameters in
the same order, without formatters and settings. Without values that shows the same text. -/
theorem render_reads_back {raw : String} {phrase : Phrase} (scope : Scope)
    (accepted : compile raw = .ok phrase) :
    ∃ again, compile (phrase.render scope .empty) = .ok again ∧
      ((∃ text, again = .plain text) ↔ ∃ text, phrase = .plain text) ∧
      (∀ template, phrase = .template template →
        ∃ other, again = .template other ∧ other.fragments = template.fragments ∧
          other.parameters = template.parameters ∧ ∀ slot ∈ other.slots, slot.1.call = none) ∧
      ∀ other, again.render other .empty = phrase.render scope .empty := by
  refine ⟨phrase.bare, compile_render_empty scope accepted, ?_, ?_, ?_⟩
  · cases phrase <;> simp [bare]
  · rintro template rfl
    exact ⟨template.bare, rfl, fragments_bare template, parameters_bare template,
      fun slot member => call_of_mem_bare member⟩
  · intro other
    cases phrase with
    | plain text => rfl
    | template template => exact render_bare_empty template scope other

/-- A slot with a formatter in front of braces that open none. -/
theorem render_reads_back_open_braces :
    compile "\x7b\x7b a, b \x7d\x7d\x7b\x7b c" =
        .ok (.template ⟨"", [(⟨"a", some ⟨"b", none⟩⟩, "\x7b\x7b c")]⟩) ∧
      ∃ again, compile "\x7b\x7ba\x7d\x7d\x7b\x7b c" = .ok again ∧
        ∀ other, again.render other .empty = "\x7b\x7ba\x7d\x7d\x7b\x7b c" := by
  have accepted : compile "\x7b\x7b a, b \x7d\x7d\x7b\x7b c" =
      .ok (.template ⟨"", [(⟨"a", some ⟨"b", none⟩⟩, "\x7b\x7b c")]⟩) := by rfl
  obtain ⟨again, compiled, -, -, shown⟩ := render_reads_back ⟨.empty, .empty⟩ accepted
  exact ⟨accepted, again, compiled, shown⟩

end Phrase

end Phrasebook
