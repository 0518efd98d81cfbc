import Phrasebook.Proofs.Book.Effect
import Phrasebook.Proofs.Book.Catalog
import Phrasebook.Proofs.Table
import Phrasebook.Proofs.Template.Scan

/-!
# What a definition stores

A definition that is accepted puts one catalog into the book, and the catalog follows from the
definition and the scope that locales start from alone: its keys are those of the tree, each with
the compiled form of its own text, and its scope is the one of the book with the overrides put
over it, name by name. Nothing of an earlier catalog of the locale is left, and nothing else of
the book changes but the active locale, if there was none.

A definition that is refused for a phrase names the smallest key with a text that does not
compile. Both are one statement (`define_stores_definition`); it rests on `entries_compilePhrases`,
by which the texts may be thought of as compiled one by one.
-/

namespace Phrasebook

namespace Entries

variable {α : Type u} {β : Type v} {ε : Type w} {change : String → α → Except ε β}

theorem tryMap_cons_eq_error_iff {name : String} {value : α} {rest : Entries α} {error : ε} :
    tryMap change ((name, value) :: rest) = .error error ↔
      change name value = .error error ∨
        (∃ changed, change name value = .ok changed) ∧ tryMap change rest = .error error := by
  rw [tryMap]
  cases change name value <;> cases tryMap change rest <;> simp

/-- Changing values in order fails with the change of the smallest name that fails. -/
theorem tryMap_eq_error_iff {entries : Entries α} (ascending : entries.Ascending) {error : ε} :
    entries.tryMap change = .error error ↔
      ∃ name value, (name, value) ∈ entries ∧ change name value = .error error ∧
        ∀ entry ∈ entries, entry.1 < name → ∃ changed, change entry.1 entry.2 = .ok changed := by
  induction entries with
  | nil => simp [tryMap]
  | cons head rest ih =>
      obtain ⟨first, value⟩ := head
      have above : ∀ entry ∈ rest, first < entry.1 := fun _ member =>
        List.rel_of_pairwise_cons ascending member
      rw [tryMap_cons_eq_error_iff, ih (List.Pairwise.of_cons ascending)]
      constructor
      · rintro (fails | ⟨success, name, other, member, fails, right⟩)
        · -- No entry is smaller than the first.
          refine ⟨first, value, List.mem_cons_self, fails, ?_⟩
          intro entry member smaller
          rcases List.mem_cons.mp member with rfl | member
          · exact absurd smaller (String.lt_irrefl _)
          · exact absurd smaller (String.lt_asymm (above entry member))
        · refine ⟨name, other, List.mem_cons_of_mem _ member, fails, ?_⟩
          intro entry inside smaller
          rcases List.mem_cons.mp inside with rfl | inside
          · exact success
          · exact right entry inside smaller
      · rintro ⟨name, other, member, fails, right⟩
        rcases List.mem_cons.mp member with here | later
        · cases here
          exact .inl fails
        · refine .inr ⟨right _ List.mem_cons_self (above _ later), name, other, later, fails, ?_⟩
          intro entry inside
          exact right entry (List.mem_cons_of_mem _ inside)

end Entries

namespace Catalog

/-- The catalog of a definition whose tree has the given texts. -/
structure Follows (catalog : Catalog) (base : Scope) (definition : Definition)
    (texts : Table String) : Prop where
  keys : catalog.phrases.names = texts.names
  compiled : ∀ key text, texts.get? key = some text →
    ∃ phrase, Phrase.compile text = .ok phrase ∧ catalog.phrases.get? key = some phrase
  formatters : ∀ name, catalog.scope.formatters.get? name =
    (definition.overrides.formatters.get? name).or (base.formatters.get? name)
  settings : ∀ name, catalog.scope.settings.get? name =
    (definition.overrides.settings.get? name).or (base.settings.get? name)

theorem names_of_compilePhrases {locale : String} {texts : Table String} {phrases : Table Phrase}
    (success : compilePhrases locale texts = .ok phrases) : phrases.names = texts.names :=
  Entries.tryMap_names (tryMap_of_compilePhrases success)

theorem compilePhrases_eq_error_iff {locale : String} {texts : Table String}
    {error : CatalogError} :
    compilePhrases locale texts = .error error ↔
      texts.entries.tryMap (compileAt locale) = .error error := by
  rw [← entries_compilePhrases, map_eq_error_iff]

theorem ofDefinition_eq_ok_iff {base : Scope} {definition : Definition} {catalog : Catalog} :
    ofDefinition base definition = .ok catalog ↔
      ∃ texts phrases, PhraseTree.flatten definition.locale definition.tree = .ok texts ∧
        compilePhrases definition.locale texts = .ok phrases ∧
        catalog = ⟨phrases, base.overlay definition.overrides⟩ := by
  unfold ofDefinition
  cases PhraseTree.flatten definition.locale definition.tree with
  | error error => simp
  | ok texts => simp [map_eq_ok_iff, eq_comm (a := catalog)]

theorem ofDefinition_eq_phrase_iff {base : Scope} {definition : Definition}
    {locale key : String} {error : CompileError} :
    ofDefinition base definition = .error (.phrase locale key error) ↔
      ∃ texts, PhraseTree.flatten definition.locale definition.tree = .ok texts ∧
        compilePhrases definition.locale texts = .error (.phrase locale key error) := by
  unfold ofDefinition
  cases PhraseTree.flatten definition.locale definition.tree with
  | error error => simp
  | ok texts => simp [map_eq_error_iff]

theorem follows_of_ofDefinition {base : Scope} {definition : Definition} {catalog : Catalog}
    (made : ofDefinition base definition = .ok catalog) :
    ∃ texts, PhraseTree.flatten definition.locale definition.tree = .ok texts ∧
      catalog.Follows base definition texts := by
  obtain ⟨texts, phrases, flattened, success, rfl⟩ := ofDefinition_eq_ok_iff.mp made
  refine ⟨texts, flattened, names_of_compilePhrases success, ?_, ?_, ?_⟩
  · intro key text found
    exact get?_of_compilePhrases success found
  · exact Table.get?_overlay base.formatters definition.overrides.formatters
  · exact Table.get?_overlay base.settings definition.overrides.settings

theorem compileAt_eq_ok_iff {locale key text : String} {phrase : Phrase} :
    compileAt locale key text = .ok phrase ↔ Phrase.compile text = .ok phrase := by
  unfold compileAt
  cases Phrase.compile text <;> simp [Except.mapError]

theorem compileAt_eq_error_iff {locale key text : String} {error : CatalogError} :
    compileAt locale key text = .error error ↔
      ∃ cause, Phrase.compile text = .error cause ∧ error = .phrase locale key cause := by
  unfold compileAt
  cases Phrase.compile text <;> simp [Except.mapError, eq_comm]

/-- A definition is refused for its tree iff the tree has no texts. -/
theorem ofDefinition_eq_tree_iff {base : Scope} {definition : Definition} {error : TreeError} :
    ofDefinition base definition = .error (.tree error) ↔
      PhraseTree.flatten definition.locale definition.tree = .error error := by
  unfold ofDefinition
  cases PhraseTree.flatten definition.locale definition.tree with
  | error error => simp
  | ok texts =>
      simp only [map_eq_error_iff, compilePhrases_eq_error_iff, reduceCtorEq, iff_false]
      intro failed
      -- Texts that do not compile are blamed on their keys.
      obtain ⟨key, text, -, failed, -⟩ := (Entries.tryMap_eq_error_iff texts.ascending).mp failed
      obtain ⟨cause, -, same⟩ := compileAt_eq_error_iff.mp failed
      cases same

/-- Texts are compiled if each of them compiles. -/
theorem exists_compilePhrases {texts : Table String}
    (compiles : ∀ key text, texts.get? key = some text →
      ∃ phrase, Phrase.compile text = .ok phrase) (locale : String) :
    ∃ phrases, compilePhrases locale texts = .ok phrases := by
  cases outcome : compilePhrases locale texts with
  | ok phrases => exact ⟨phrases, rfl⟩
  | error error =>
      rw [compilePhrases_eq_error_iff, Entries.tryMap_eq_error_iff texts.ascending] at outcome
      obtain ⟨key, text, member, failed, -⟩ := outcome
      obtain ⟨phrase, compiled⟩ := compiles key text (Table.mem_entries_iff.mp member)
      obtain ⟨cause, failed, -⟩ := compileAt_eq_error_iff.mp failed
      rw [compiled] at failed
      cases failed

/-- A definition makes a catalog iff its tree has texts, and all of them compile. -/
theorem exists_ofDefinition_iff {base : Scope} {definition : Definition} :
    (∃ catalog, ofDefinition base definition = .ok catalog) ↔
      ∃ texts, PhraseTree.flatten definition.locale definition.tree = .ok texts ∧
        ∀ key text, texts.get? key = some text → ∃ phrase, Phrase.compile text = .ok phrase := by
  constructor
  · rintro ⟨catalog, made⟩
    obtain ⟨texts, flattened, follows⟩ := follows_of_ofDefinition made
    refine ⟨texts, flattened, fun key text found => ?_⟩
    obtain ⟨phrase, compiled, -⟩ := follows.compiled key text found
    exact ⟨phrase, compiled⟩
  · rintro ⟨texts, flattened, compiles⟩
    obtain ⟨phrases, success⟩ := exists_compilePhrases compiles definition.locale
    exact ⟨_, ofDefinition_eq_ok_iff.mpr ⟨texts, phrases, flattened, success, rfl⟩⟩

/-- Compiling fails with the smallest key whose text does not compile. -/
theorem compilePhrases_eq_phrase_iff {locale named key : String} {texts : Table String}
    {error : CompileError} :
    compilePhrases locale texts = .error (.phrase named key error) ↔
      named = locale ∧ ∃ text, texts.get? key = some text ∧ Phrase.compile text = .error error ∧
        ∀ smaller earlier, smaller < key → texts.get? smaller = some earlier →
          ∃ phrase, Phrase.compile earlier = .ok phrase := by
  rw [compilePhrases_eq_error_iff, Entries.tryMap_eq_error_iff texts.ascending]
  simp only [compileAt_eq_error_iff, compileAt_eq_ok_iff, Table.mem_entries_iff, Prod.forall]
  constructor
  · rintro ⟨name, text, found, ⟨cause, fails, same⟩, right⟩
    cases same
    exact ⟨rfl, text, found, fails, fun smaller earlier less known =>
      right smaller earlier known less⟩
  · rintro ⟨rfl, text, found, fails, right⟩
    exact ⟨key, text, found, ⟨error, fails, rfl⟩, fun smaller earlier known less =>
      right smaller earlier less known⟩

end Catalog

namespace Book

theorem define_eq_ok_iff {book after : Book} {definition : Definition} {count : Nat} :
    book.define definition = (.ok count, after) ↔
      ∃ catalog, Catalog.ofDefinition book.base definition = .ok catalog ∧
        count = catalog.phrases.size ∧ after = book.withCatalog definition.locale catalog := by
  unfold define
  cases Catalog.ofDefinition book.base definition <;> simp [withCatalog, eq_comm]

theorem exists_define_eq_ok_iff (book : Book) (definition : Definition) :
    (∃ count after, book.define definition = (.ok count, after)) ↔
      ∃ texts, PhraseTree.flatten definition.locale definition.tree = .ok texts ∧
        ∀ key text, texts.get? key = some text → ∃ phrase, Phrase.compile text = .ok phrase := by
  rw [← Catalog.exists_ofDefinition_iff]
  constructor
  · rintro ⟨count, after, done⟩
    obtain ⟨catalog, made, -, -⟩ := define_eq_ok_iff.mp done
    exact ⟨catalog, made⟩
  · rintro ⟨catalog, made⟩
    exact ⟨_, _, define_eq_ok_iff.mpr ⟨catalog, made, rfl, rfl⟩⟩

theorem define_eq_error_iff {book after : Book} {definition : Definition} {error : DefineError} :
    book.define definition = (.error error, after) ↔
      after = book ∧ ∃ cause, Catalog.ofDefinition book.base definition = .error cause ∧
        error = .catalog cause := by
  unfold define
  cases Catalog.ofDefinition book.base definition <;> simp [eq_comm, and_comm]

theorem ofDefinition_of_define {book after : Book} {definition : Definition}
    {error : CatalogError} (failed : book.define definition = (.error (.catalog error), after)) :
    Catalog.ofDefinition book.base definition = .error error := by
  obtain ⟨-, cause, made, same⟩ := define_eq_error_iff.mp failed
  cases same
  exact made

/-- **A definition is stored as a whole.** A definition is accepted iff its tree has texts that all
compile. It then gives its locale the catalog that follows from it, whatever the locale had; the
answer is the number of keys. The same definition gives the same catalog in every book with the
same base, and the other catalogs, the base, the origins and the kept templates are as before. A
definition that is refused for a phrase is so for the smallest key whose text does not compile,
with the error of that text. -/
theorem define_stores_definition (book : Book) (definition : Definition) :
    ((∃ count after, book.define definition = (.ok count, after)) ↔
      ∃ texts, PhraseTree.flatten definition.locale definition.tree = .ok texts ∧
        ∀ key text, texts.get? key = some text → ∃ phrase, Phrase.compile text = .ok phrase) ∧
    (∀ count after, book.define definition = (.ok count, after) →
      ∃ texts catalog, PhraseTree.flatten definition.locale definition.tree = .ok texts ∧
        catalog.Follows book.base definition texts ∧
        after.catalogs.get? definition.locale = some catalog ∧
        count = catalog.phrases.names.length ∧
        (∀ other : Book, other.base = book.base →
          ∃ otherAfter, other.define definition = (.ok count, otherAfter) ∧
            otherAfter.catalogs.get? definition.locale = some catalog) ∧
        (∀ locale, locale ≠ definition.locale →
          after.catalogs.get? locale = book.catalogs.get? locale) ∧
        after.base = book.base ∧ after.origins = book.origins ∧
        after.templates = book.templates ∧
        after.active = book.active.or (some definition.locale)) ∧
    ∀ locale key error after,
      book.define definition = (.error (.catalog (.phrase locale key error)), after) ↔
        after = book ∧ locale = definition.locale ∧
          ∃ texts text, PhraseTree.flatten definition.locale definition.tree = .ok texts ∧
            texts.get? key = some text ∧ Phrase.compile text = .error error ∧
            ∀ smaller earlier, smaller < key → texts.get? smaller = some earlier →
              ∃ phrase, Phrase.compile earlier = .ok phrase := by
  refine ⟨exists_define_eq_ok_iff book definition, ?_, ?_⟩
  · intro count after done
    obtain ⟨catalog, made, rfl, rfl⟩ := define_eq_ok_iff.mp done
    obtain ⟨texts, flattened, follows⟩ := Catalog.follows_of_ofDefinition made
    refine ⟨texts, catalog, flattened, follows, ?_, catalog.phrases.size_eq_length_names, ?_, ?_,
      rfl, rfl, rfl, active_withCatalog book definition.locale catalog⟩
    · exact Table.get?_insert_self _ _ _
    · intro other same
      refine ⟨_, define_eq_ok_iff.mpr ⟨catalog, same ▸ made, rfl, rfl⟩, ?_⟩
      exact Table.get?_insert_self _ _ _
    · intro locale different
      exact Table.get?_insert_of_ne _ different _
  · intro locale key error after
    rw [define_eq_error_iff]
    constructor
    · rintro ⟨rfl, cause, failed, same⟩
      cases same
      obtain ⟨texts, flattened, failed⟩ := Catalog.ofDefinition_eq_phrase_iff.mp failed
      obtain ⟨rfl, text, failure⟩ := Catalog.compilePhrases_eq_phrase_iff.mp failed
      exact ⟨rfl, rfl, texts, text, flattened, failure⟩
    · rintro ⟨rfl, rfl, texts, text, flattened, failure⟩
      refine ⟨rfl, _, Catalog.ofDefinition_eq_phrase_iff.mpr ⟨texts, flattened, ?_⟩, rfl⟩
      exact Catalog.compilePhrases_eq_phrase_iff.mpr ⟨rfl, text, failure⟩

/-- A definition with one text under two keys and with overrides, in place of an earlier one. -/
theorem define_stores_definition_in_place :
    let marked : Formatter := fun value _ _ => "#" ++ value.plainText
    let starred : Formatter := fun value _ _ => "*" ++ value.plainText
    let lower : Settings := .object [("fractionCount", .integer 0)]
    let upper : Settings := .object [("thousandsSeparator", .string "_")]
    let book := ((ofScope ⟨.ofEntries [("number", marked)], .ofEntries [("number", lower)]⟩).define
      ⟨"en", .object [("old", .string "Old")], ⟨.empty, .empty⟩⟩).2
    let text : Json := .string "\x7b\x7bn, number\x7d\x7d"
    let definition : Definition :=
      ⟨"en", .object [("one", text), ("two", text)],
        ⟨.ofEntries [("number", starred)], .ofEntries [("number", upper)]⟩⟩
    ∃ after catalog, book.define definition = (.ok 2, after) ∧
      after.catalogs.get? "en" = some catalog ∧ catalog.phrases.names = ["one", "two"] ∧
      catalog.scope.formatters.get? "number" = some starred ∧
      catalog.scope.settings.get? "number" = some upper := by
  intro marked starred lower upper book text definition
  obtain ⟨after, done⟩ : ∃ after, book.define definition = (.ok 2, after) := ⟨_, by rfl⟩
  obtain ⟨texts, catalog, flattened, follows, stored, -⟩ :=
    (define_stores_definition book definition).2.1 2 after done
  obtain rfl : .ofEntries [("one", "\x7b\x7bn, number\x7d\x7d"),
      ("two", "\x7b\x7bn, number\x7d\x7d")] = texts :=
    Except.ok.inj (Eq.trans (by rfl) flattened)
  refine ⟨after, catalog, done, stored, ?_, ?_, ?_⟩
  · rw [follows.keys]
    decide +kernel
  · rw [follows.formatters]
    rfl
  · rw [follows.settings]
    rfl

end Book

end Phrasebook
