import Phrasebook.Proofs.Book.Catalog
import Phrasebook.Proofs.Book.Active
import Phrasebook.Proofs.Tree.Leaves

/-!
# Kept templates and stored phrases

A text that is given itself is compiled when it is rendered first and kept after that. The kept
templates are the compiled forms of the texts rendered since they were cleared
(`templates_run`), so rendering shows what compiling afresh would show. The phrases of a catalog
are compiled from the tree that it was defined from (`stored_run`), and a locale gets others only
by a definition or with another catalog in the place of its own. So a stored phrase and its text
rendered by itself show the same (`render_as_compiled_afresh`).
-/

namespace Phrasebook

namespace Operation

@[simp] def rendered? : Operation → Option String
  | .render text _ => some text
  | _ => none

@[simp] def clears : Operation → Bool
  | .clearTemplates => true
  | _ => false

/-- The texts rendered behind the last clearing. -/
def renderedSinceClear (operations : List Operation) : List String :=
  (operations.rtakeWhile (!·.clears)).filterMap rendered?

theorem renderedSinceClear_concat (operations : List Operation) (operation : Operation) :
    renderedSinceClear (operations ++ [operation]) =
      if operation.clears then []
      else renderedSinceClear operations ++ operation.rendered?.toList := by
  unfold renderedSinceClear
  rw [List.rtakeWhile_concat]
  cases operation <;> simp

end Operation

namespace Book

open Operation

variable {book after : Book} {read : FileReader} {operation : Operation}

/-! ## Kept templates -/

/-- The kept templates are those of the texts rendered since the last clearing. -/
structure KeptFrom (operations : List Operation) (kept : Table Phrase) : Prop where
  texts : ∀ text, text ∈ kept.names ↔ text ∈ renderedSinceClear operations
  forms : CompiledForms kept

theorem KeptFrom.step {operations : List Operation} (holds : KeptFrom operations book.templates)
    (effect : Effect book read operation after) :
    KeptFrom (operations ++ [operation]) after.templates where
  texts := by
    intro text
    rw [renderedSinceClear_concat]
    cases effect with
    | @renderKept shown params phrase kept =>
        -- The text is among those rendered before, so it makes no difference that it comes again.
        have member : shown ∈ renderedSinceClear operations := by
          rw [← holds.texts, Table.mem_names_iff, kept]
          rfl
        by_cases same : text = shown
        · simp [same, member, holds.texts]
        · simp [same, holds.texts]
    | renderNew => simp [Table.mem_names_insert, holds.texts, eq_comm]
    | clearTemplates => simp [Table.mem_names_iff, Table.get?_empty]
    | _ => simpa using holds.texts text
  forms := by
    cases effect with
    | renderNew compiled => exact holds.forms.insert compiled
    | clearTemplates => exact .empty
    | _ => exact holds.forms

theorem templates_run (base : Scope) (history : List (Operation × FileReader)) :
    KeptFrom ((ofScope base).succeeded history) ((ofScope base).run history).templates := by
  refine succeeded_induction
    (motive := fun book operations => KeptFrom operations book.templates) ?_ ?_ history
  · exact ⟨fun _ => Iff.rfl, .empty⟩
  · intro operations book after operation read holds effect
    exact holds.step effect

/-- Rendering a text shows what its compiled form shows in the scope of the active locale. -/
theorem fst_render (forms : CompiledForms book.templates) (text : String) (params : Params) :
    (book.render text params).1 =
      (Phrase.compile text).map (·.render book.activeScope params) := by
  unfold render template
  cases kept : book.templates.get? text with
  | some phrase =>
      rw [forms text phrase kept]
      rfl
  | none => cases Phrase.compile text <;> rfl

/-! ## Stored phrases -/

def fileTree? (read : FileReader) (path : String) : Option Json :=
  (read path).toOption.bind fun text => (Json.read text).toOption

/-- The locale whose phrases an operation sets, and the tree that they come from. A locale has the
phrases of its catalog, so a catalog that is put in the place of another brings its tree along. -/
def source? (book : Book) (read : FileReader) : Operation → Option (String × Json)
  | .define definition => some (definition.locale, definition.tree)
  | .defineText locale text => (Json.read text).toOption.map (locale, ·)
  | .load locale path => (fileTree? read path).map (locale, ·)
  | .reload locale => ((book.origins.get? locale).bind (fileTree? read)).map (locale, ·)
  | .replaceCatalog locale made =>
    if book.catalogs.contains locale then some (locale, made.tree) else none
  | _ => none

/-- The locales whose phrases a row of successful operations sets, in order, each with the tree
that they come from. -/
def sources (book : Book) : List (Operation × FileReader) → Entries Json
  | [] => []
  | (operation, read) :: rest =>
    (book.source? read operation).toList ++ (book.perform read operation).2.sources rest

theorem sources_append (book : Book) (front back : List (Operation × FileReader)) :
    book.sources (front ++ back) = book.sources front ++ (book.run front).sources back := by
  induction front generalizing book with
  | nil => rfl
  | cons step rest ih =>
      obtain ⟨operation, read⟩ := step
      simp [sources, run_cons, ih]

/-- A success gives one locale a catalog made from its tree, or leaves all phrases. -/
theorem Effect.phrases (effect : Effect book read operation after) :
    (∃ locale tree catalog, book.source? read operation = some (locale, tree) ∧
        Catalog.MadeFrom catalog tree ∧
        after.catalogs = book.catalogs.insert locale catalog) ∨
      (book.source? read operation = none ∧
        ∀ locale, (after.catalogs.get? locale).map (·.phrases) =
          (book.catalogs.get? locale).map (·.phrases)) := by
  cases effect with
  | define made => exact .inl ⟨_, _, _, rfl, Catalog.madeFrom_of_ofDefinition made, rfl⟩
  | defineText parsed made =>
      refine .inl ⟨_, _, _, ?_, Catalog.madeFrom_of_ofDefinition made, rfl⟩
      simp [source?, parsed, Except.toOption]
  | load found parsed made =>
      refine .inl ⟨_, _, _, ?_, Catalog.madeFrom_of_ofDefinition made, rfl⟩
      simp [source?, fileTree?, found, parsed, Except.toOption]
  | reload known found parsed made =>
      refine .inl ⟨_, _, _, ?_, Catalog.madeFrom_of_ofDefinition made, rfl⟩
      simp [source?, fileTree?, known, found, parsed, Except.toOption]
  | register =>
      refine .inr ⟨rfl, fun locale => ?_⟩
      rw [Table.get?_map, Option.map_map]
      rfl
  | changeCatalog =>
      refine .inr ⟨rfl, fun locale => ?_⟩
      rw [Table.get?_modify]
      split
      · rw [Option.map_map]
        rfl
      · rfl
  | @replaceCatalog locale made =>
      cases found : book.catalogs.get? locale with
      | some old =>
          refine .inl
            ⟨locale, made.tree, made.catalog, ?_, made.made, Table.modify_eq_insert found _⟩
          simp [source?, Table.contains, found]
      | none =>
          refine .inr ⟨by simp [source?, Table.contains, found], fun other => ?_⟩
          rw [Table.modify_eq_self found _]
  | _ => exact .inr ⟨rfl, fun _ => rfl⟩

/-- Every catalog of a book has the phrases of the latest tree of its locale. -/
def StoredFrom (trees : Entries Json) (book : Book) : Prop :=
  ∀ locale catalog, book.catalogs.get? locale = some catalog →
    ∃ tree, trees.find? locale = some tree ∧ catalog.MadeFrom tree

theorem StoredFrom.step {trees : Entries Json} (holds : StoredFrom trees book)
    (effect : Effect book read operation after) :
    StoredFrom (trees ++ (book.source? read operation).toList) after := by
  intro locale catalog found
  rw [Entries.find?_append]
  rcases effect.phrases with ⟨name, tree, new, defined, made, catalogs⟩ | ⟨undefined, phrases⟩
  · rw [catalogs, Table.get?_insert] at found
    rw [defined]
    split at found
    · rename_i same
      cases found
      exact ⟨tree, by simp [Entries.find?, same], made⟩
    · rename_i different
      have notHere : ¬ name = locale := fun same => different same.symm
      obtain ⟨older, latest, made⟩ := holds locale catalog found
      exact ⟨older, by simp [Entries.find?, notHere, latest], made⟩
  · -- The catalog differs from the one before in its scope at most.
    have same := phrases locale
    rw [found] at same
    obtain ⟨before, known, equal⟩ := Option.map_eq_some_iff.mp same.symm
    obtain ⟨tree, latest, origin, texts, flattened, compiled⟩ := holds locale before known
    refine ⟨tree, by simp [undefined, Entries.find?, latest], origin, texts, flattened, ?_⟩
    exact compiled.trans (congrArg Except.ok equal)

theorem stored_run (base : Scope) (history : List (Operation × FileReader)) :
    StoredFrom ((ofScope base).sources ((ofScope base).succeeding history))
      ((ofScope base).run history) := by
  refine run_induction
    (motive := fun book done => StoredFrom ((ofScope base).sources done) book) ?_ ?_ history
  · exact nofun
  · intro done book after operation read reached holds effect
    rw [sources_append, reached]
    simpa [sources] using holds.step effect

/-- A text of the active catalog's tree shows by itself what the phrase under its key shows. -/
theorem fst_render_stored {catalog : Catalog} {locale key raw : String} {texts : Table String}
    (forms : CompiledForms book.templates) (active : book.activeCatalog? = some catalog)
    (compiled : Catalog.compilePhrases locale texts = .ok catalog.phrases)
    (asked : texts.get? key = some raw) (params : Params) :
    (book.render raw params).1 = .ok (book.translate key params) := by
  obtain ⟨phrase, form, stored⟩ := Catalog.get?_of_compilePhrases compiled asked
  rw [fst_render forms, form, translate, activeScope, active]
  simp [Except.map, Catalog.translate, stored]

/-- **Rendering as if compiled afresh.** Whatever was rendered and cleared before, a text shows what
its compiled form shows in the scope of the active locale, or of the base where none is active,
and fails as its compilation does. A stored phrase shows what its text shows when it is rendered by
itself: the text under its key in the tree that the active locale was last defined from, and that
is the tree of the catalog last put in its place, if none of its definitions is later. Kept are
the compiled forms of the texts rendered since the last clearing. -/
theorem render_as_compiled_afresh (base : Scope) (history : List (Operation × FileReader)) :
    let start := ofScope base
    let book := start.run history
    (book.active = none → ∀ text params,
        (book.render text params).1 = (Phrase.compile text).map (·.render book.base params)) ∧
      (∀ locale, book.active = some locale → ∃ catalog tree texts,
        book.catalogs.get? locale = some catalog ∧
        (start.sources (start.succeeding history)).find? locale = some tree ∧
        PhraseTree.flatten locale tree = .ok texts ∧
        (∀ text params,
          (book.render text params).1 = (Phrase.compile text).map (·.render catalog.scope params)) ∧
        ∀ key raw params, texts.get? key = some raw →
          (book.render raw params).1 = .ok (book.translate key params)) ∧
      (∀ text, text ∈ book.templates.names ↔
        text ∈ renderedSinceClear (start.succeeded history)) ∧
      ∀ text phrase, book.templates.get? text = some phrase →
        Phrase.compile text = .ok phrase := by
  intro start book
  have kept := templates_run base history
  have afresh := fst_render kept.forms
  refine ⟨?_, ?_, kept.texts, kept.forms⟩
  · intro inactive text params
    rw [afresh, activeScope, activeCatalog?, inactive]
    rfl
  · intro locale active
    have defined := (settled_run base history).activeDefined locale active
    obtain ⟨catalog, found⟩ := Option.isSome_iff_exists.mp (mem_locales_iff.mp defined)
    obtain ⟨tree, latest, origin, texts, flattened, compiled⟩ :=
      stored_run base history locale catalog found
    have activeCatalog : book.activeCatalog? = some catalog := by
      rw [activeCatalog?, active]
      exact found
    refine ⟨catalog, tree, texts, found, latest, PhraseTree.flatten_locale flattened locale, ?_, ?_⟩
    · intro text params
      rw [afresh, activeScope, activeCatalog]
    · intro key raw params asked
      exact fst_render_stored kept.forms activeCatalog compiled asked params

/-- A locale that is activated, gets the catalog of another in the place of its empty one, and is
changed then. A text that is one of its phrases is rendered before and behind a clearing, with a
text that does not compile in between. -/
theorem render_as_compiled_afresh_after_switch :
    let raw := "[\x7b\x7bn, number\x7d\x7d]"
    let amount : Phrase := .template ⟨"[", [(⟨"n", some ⟨"number", none⟩⟩, "]")]⟩
    let german : MadeCatalog := ⟨⟨.ofEntries [("n", amount)], .builtIn⟩,
      .object [("n", .string "[\x7b\x7bn, number\x7d\x7d]")],
      "de", .ofEntries [("n", "[\x7b\x7bn, number\x7d\x7d]")], by rfl, by rfl⟩
    let file : FileReader := fun _ => .ok ("\x7b\x22n\x22: \x22" ++ raw ++ "\x22\x7d")
    let spaced : Settings := .object [("thousandsSeparator", .string " ")]
    let history : List (Operation × FileReader) :=
      [(.load "de" "de.json", file), (.define ⟨"en", .object [], ⟨.empty, .empty⟩⟩, file),
        (.render raw .empty, file), (.clearTemplates, file), (.render raw .empty, file),
        (.render "\x7b\x7bn, number, \x7b" .empty, file), (.activate "en", file),
        (.replaceCatalog "en" german, file), (.changeCatalog "en" (·.set "number" spaced), file)]
    let book := new.run history
    let params : Params := .ofEntries [("n", .number 1234)]
    book.active = some "en" ∧
      (book.render raw params).1 = .ok (book.translate "n" params) ∧
      book.translate "n" params = "[1 234.00]" ∧ book.templates.names = [raw] := by
  intro raw amount german file spaced history book params
  have active : book.active = some "en" := by decide +kernel
  have written : ((new.sources (new.succeeding history)).find? "en").bind (fun tree =>
      (PhraseTree.flatten "en" tree).toOption.bind (·.get? "n")) = some raw := by decide +kernel
  obtain ⟨catalog, tree, texts, -, latest, flattened, -, agree⟩ :=
    (render_as_compiled_afresh .builtIn history).2.1 "en" active
  have asked : texts.get? "n" = some raw := by
    simpa [new, latest, flattened, Except.toOption] using written
  exact ⟨active, agree "n" raw params asked, by decide +kernel, by decide +kernel⟩

end Book

end Phrasebook
