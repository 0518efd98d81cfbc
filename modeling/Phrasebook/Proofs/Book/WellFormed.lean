import Phrasebook.Proofs.Book.Templates
import Phrasebook.Proofs.Template.Split

/-!
# Stored phrases are well formed

Whatever is compiled is well formed: plain text has no mark of a slot, names are made of the letters
they may have, and settings are an object. The grammar of slots says so of every slot that a text
spells (`SlotText.wellFormed`), and compiling adds nothing to the spelled parts. A book only stores
what it has compiled, so all of its phrases are well formed after every history
(`stored_phrases_wellFormed`).
-/

namespace Phrasebook

open Template

/-! ## Well-formed phrases -/

structure Call.WellFormed (call : Call) : Prop where
  formatter : FormatterName call.formatter.toList
  settings : ∀ settings, call.settings = some settings → settings.isObject = true

structure Slot.WellFormed (slot : Slot) : Prop where
  parameter : ParameterName slot.parameter.toList
  call : ∀ call, slot.call = some call → call.WellFormed

inductive Phrase.WellFormed : Phrase → Prop
  | plain {text : String} : ¬ openMark <:+: text.toList → WellFormed (.plain text)
  | template {template : Template} :
      template.fragments.length = template.parameters.length + 1 →
      (∀ slot ∈ template.slots, slot.1.WellFormed) → WellFormed (.template template)

namespace Template

theorem FormatterText.wellFormed {formatter : String} {text : List Char}
    (written : FormatterText formatter text) : FormatterName formatter.toList := by
  cases written with
  | intro comma letters =>
      rw [String.toList_ofList]
      exact letters

theorem CallText.wellFormed {call : Call} {text : List Char}
    (written : CallText (some call) text) : call.WellFormed := by
  cases written with
  | bare named => exact ⟨named.wellFormed, nofun⟩
  | withSettings named comma spelled =>
      refine ⟨named.wellFormed, ?_⟩
      intro settings same
      cases same
      exact spelled.isObject

theorem SlotText.wellFormed {slot : Slot} {span : List Char} (spelled : SlotText slot span) :
    slot.WellFormed := by
  cases spelled with
  | intro opened called closed =>
      constructor
      · cases opened with
        | intro blanks letters =>
            rw [String.toList_ofList]
            exact letters
      · intro call same
        subst same
        exact called.wellFormed

/-- The slots of a template are those that its text spells. -/
theorem Spells.wellFormed {row : List Part} {text : List Char} (spelled : Spells row text) :
    ∀ slot ∈ (ofParts row).slots, slot.1.WellFormed := by
  induction spelled with
  | nil => exact nofun
  | literal stands spelled ih =>
      rw [ofParts_literal]
      exact ih
  | slot written spelled ih =>
      rw [ofParts_slot]
      intro slot member
      rcases List.mem_cons.mp member with rfl | member
      · exact written.wellFormed
      · exact ih slot member

end Template

theorem Phrase.wellFormed_of_compile {raw : String} {phrase : Phrase}
    (compiled : compile raw = .ok phrase) : phrase.WellFormed := by
  cases phrase with
  | plain text =>
      obtain ⟨unmarked, rfl⟩ := compile_eq_plain_iff.mp compiled
      exact .plain unmarked
  | template template =>
      obtain ⟨marked, row, spelled, rfl⟩ := compile_eq_template_iff.mp compiled
      refine .template ?_ spelled.wellFormed
      rw [length_fragments, parameters, List.length_map]

/-- No phrase is rejected for having no settings, because they are read from a brace on. -/
theorem Phrase.cause_ne_noSettings {raw : String} {error : CompileError}
    (rejected : compile raw = .error error) : error.cause ≠ .noSettings := by
  obtain ⟨place, fault, found, rfl⟩ := compile_eq_error_iff.mp rejected
  obtain ⟨clause, begins, wrong⟩ := found.wrong
  cases wrong with
  | malformed absent fails => exact nofun
  | unclosed spelled split unclosed => exact nofun

/-! ## Settings of a slot -/

/-- The calls of formatters in a phrase, in order. -/
def Phrase.calls : Phrase → List Call
  | .plain _ => []
  | .template parts => parts.slots.filterMap (·.1.call)

theorem Phrase.WellFormed.call {phrase : Phrase} (good : phrase.WellFormed) :
    ∀ call ∈ phrase.calls, call.WellFormed := by
  intro call member
  cases good with
  | plain unmarked => cases member
  | template count slots =>
      obtain ⟨slot, inside, same⟩ := List.mem_filterMap.mp member
      exact (slots slot inside).call call same

/-- An object over the settings of a formatter, if these are an object too, is combined with them
member by member. -/
theorem Scope.format_object {scope : Scope} {formatter : String} {lower upper : Settings}
    (own : scope.settings.get? formatter = some lower) (lowerObject : lower.isObject = true)
    (upperObject : upper.isObject = true) :
    ∃ merged : Settings, merged.isObject = true ∧
      (∀ name, merged.member? name = (upper.member? name).or (lower.member? name)) ∧
      ∀ value, scope.format formatter value (some upper) = scope.call formatter value merged := by
  cases lower with
  | object below =>
      cases upper with
      | object above =>
          refine ⟨.merge (some (.object below)) (some (.object above)), rfl,
            Settings.member?_merge below above, ?_⟩
          intro value
          show scope.call formatter value (.merge (scope.settings.get? formatter) _) = _
          rw [own]
      | _ => cases upperObject
  | _ => cases lowerObject

/-! ## Stored phrases -/

namespace Book

/-- A phrase is stored in a book: under a key of a catalog, or kept for a text that was rendered. -/
inductive Stores (book : Book) : Phrase → Prop
  | ofCatalog {locale key : String} {catalog : Catalog} {phrase : Phrase} :
      book.catalogs.get? locale = some catalog → catalog.phrases.get? key = some phrase →
      Stores book phrase
  | ofTemplate {text : String} {phrase : Phrase} :
      book.templates.get? text = some phrase → Stores book phrase

/-- All stored phrases are well formed. -/
def WellFormed (book : Book) : Prop := ∀ phrase, book.Stores phrase → phrase.WellFormed

variable {book after : Book} {read : FileReader} {operation : Operation}

theorem WellFormed.start (base : Scope) : (ofScope base).WellFormed := by
  intro phrase stored
  cases stored with
  | ofCatalog found known => cases found
  | ofTemplate kept => cases kept

theorem WellFormed.step (holds : book.WellFormed) (effect : Effect book read operation after) :
    after.WellFormed := by
  intro phrase stored
  cases stored with
  | @ofCatalog locale key catalog _ found known =>
      rcases effect.phrases with ⟨name, tree, new, -, made, catalogs⟩ | ⟨-, phrases⟩
      · rw [catalogs, Table.get?_insert] at found
        split at found
        · -- The phrases of the new catalog are compiled from the texts of its tree.
          cases found
          obtain ⟨origin, texts, -, success⟩ := made
          obtain ⟨text, -, compiled⟩ := Catalog.text_of_compilePhrases success known
          exact Phrase.wellFormed_of_compile compiled
        · exact holds phrase (.ofCatalog found known)
      · -- The catalog has the phrases that it had before.
        have same := phrases locale
        rw [found] at same
        obtain ⟨before, earlier, equal⟩ := Option.map_eq_some_iff.mp same.symm
        have known : before.phrases.get? key = some phrase := equal ▸ known
        exact holds phrase (.ofCatalog earlier known)
  | @ofTemplate text _ kept =>
      cases effect with
      | renderNew compiled =>
          rw [Table.get?_insert] at kept
          split at kept
          · cases kept
            exact Phrase.wellFormed_of_compile compiled
          · exact holds phrase (.ofTemplate kept)
      | clearTemplates => cases kept
      | _ => exact holds phrase (.ofTemplate kept)

theorem wellFormed_run (base : Scope) (history : List (Operation × FileReader)) :
    ((ofScope base).run history).WellFormed := by
  refine succeeded_induction (motive := fun book _ => book.WellFormed) ?_ ?_ history
  · exact .start base
  · intro operations book after operation read holds effect
    exact holds.step effect

/-- **Stored phrases are well formed.** After every history each phrase of a catalog and each kept
template is well formed. So the settings that a phrase names for a formatter are combined member by
member with those that the formatter has in a scope, if these are an object. And wherever
settings are read there is something to read: no phrase is rejected for having none. -/
theorem stored_phrases_wellFormed (base : Scope) (history : List (Operation × FileReader)) :
    (∀ phrase, ((ofScope base).run history).Stores phrase →
      phrase.WellFormed ∧
      ∀ call ∈ phrase.calls, ∀ settings, call.settings = some settings →
        ∀ (scope : Scope) lower, scope.settings.get? call.formatter = some lower →
          lower.isObject = true →
          ∃ merged : Settings, merged.isObject = true ∧
            (∀ name, merged.member? name = (settings.member? name).or (lower.member? name)) ∧
            ∀ value, scope.format call.formatter value call.settings =
              scope.call call.formatter value merged) ∧
    ∀ raw error, Phrase.compile raw = .error error → error.cause ≠ .noSettings := by
  constructor
  · intro phrase stored
    have good := wellFormed_run base history phrase stored
    refine ⟨good, ?_⟩
    intro call member settings inline scope lower own object
    rw [inline]
    exact Scope.format_object own object ((good.call call member).settings settings inline)
  · intro raw error rejected
    exact Phrase.cause_ne_noSettings rejected

/-- Of the settings of `number`, a slot of a kept template changes one and leaves another. -/
theorem stored_phrases_wellFormed_inline_settings :
    let raw := "\x7b\x7bn, number, \x7b\"fractionCount\": 0\x7d\x7d\x7d"
    let file : FileReader := fun _ => .error .notFound
    let history : List (Operation × FileReader) :=
      [(.render raw .empty, file), (.render "\x7b\x7bn, f, \x7b" .empty, file)]
    let call : Call := ⟨"number", some (.object [("fractionCount", .integer 0)])⟩
    let phrase : Phrase := .template ⟨"", [(⟨"n", some call⟩, "")]⟩
    let book := new.run history
    book.Stores phrase ∧ phrase.WellFormed ∧ book.templates.names = [raw] ∧
      ∃ merged : Settings, merged.member? "fractionCount" = some (.integer 0) ∧
        merged.member? "thousandsSeparator" = some (.string ",") ∧
        ∀ value, Scope.builtIn.format "number" value call.settings =
          Scope.builtIn.call "number" value merged := by
  intro raw file history call phrase book
  have names : book.templates.names = [raw] := by decide +kernel
  have compiled : Phrase.compile raw = .ok phrase := by cbv
  have stored : book.Stores phrase := by
    have kept : raw ∈ book.templates.names := names ▸ List.mem_singleton_self raw
    obtain ⟨found, known⟩ := Option.isSome_iff_exists.mp (Table.mem_names_iff.mp kept)
    have form := (templates_run .builtIn history).forms raw found known
    obtain rfl : found = phrase := Except.ok.inj (form.symm.trans compiled)
    exact .ofTemplate known
  obtain ⟨good, combined⟩ := (stored_phrases_wellFormed .builtIn history).1 phrase stored
  obtain ⟨merged, -, members, shown⟩ :=
    combined call List.mem_cons_self _ rfl .builtIn _ (by rfl) (by rfl)
  refine ⟨stored, good, names, merged, ?_, ?_, shown⟩
  · rw [members]
    rfl
  · rw [members]
    rfl

end Book

end Phrasebook
