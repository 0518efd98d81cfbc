import Mathlib
import Phrasebook.Catalog

/-!
# Catalogs of trees

A text that occurs under several keys of a tree is compiled once. That shows nowhere: the phrases
of a catalog are what compiling the texts one by one gives, and a failure is the one of the
smallest key (`entries_compilePhrases`). All that it takes is that a table of phrases seen so far
holds compiled forms only (`CompiledForms`).
-/

namespace Phrasebook

/-! ## Changes that may fail -/

namespace Entries

variable {α : Type u} {β : Type v} {ε : Type w} {change : String → α → Except ε β}
  {entries : Entries α} {changed : Entries β}

/-- Change every value by a function that may fail; the first failure is the result. -/
def tryMap (change : String → α → Except ε β) : Entries α → Except ε (Entries β)
  | [] => .ok []
  | (name, value) :: rest =>
    match change name value with
    | .error error => .error error
    | .ok changed =>
      match tryMap change rest with
      | .error error => .error error
      | .ok others => .ok ((name, changed) :: others)

theorem tryMap_cons_eq_ok_iff {name : String} {value : α} {rest : Entries α} :
    tryMap change ((name, value) :: rest) = .ok changed ↔
      ∃ new others, change name value = .ok new ∧ tryMap change rest = .ok others ∧
        changed = (name, new) :: others := by
  rw [tryMap]
  cases change name value <;> cases tryMap change rest <;> simp [eq_comm]

theorem tryMap_names (success : entries.tryMap change = .ok changed) :
    changed.map (·.1) = entries.map (·.1) := by
  induction entries generalizing changed with
  | nil =>
    simp only [tryMap, Except.ok.injEq] at success
    simp [← success]
  | cons entry rest ih =>
    obtain ⟨new, others, -, behind, rfl⟩ := tryMap_cons_eq_ok_iff.mp success
    rw [List.map_cons, List.map_cons, ih behind]

theorem find?_tryMap (success : entries.tryMap change = .ok changed) (name : String) :
    changed.find? name = (entries.find? name).bind fun value => (change name value).toOption := by
  induction entries generalizing changed with
  | nil =>
    simp only [tryMap, Except.ok.injEq] at success
    simp [← success, find?]
  | cons head rest ih =>
    obtain ⟨key, value⟩ := head
    obtain ⟨new, others, here, behind, rfl⟩ := tryMap_cons_eq_ok_iff.mp success
    rw [find?, find?, ih behind]
    cases found : find? name rest with
    | some later =>
      -- A later entry has the name, and its change did not fail either.
      have kept : (find? name others).isSome := by
        rw [isSome_find?_iff, tryMap_names behind, ← isSome_find?_iff, found]
        rfl
      rw [ih behind, found] at kept
      obtain ⟨changed, same⟩ := Option.isSome_iff_exists.mp kept
      simp_all
    | none =>
      by_cases same : key = name
      · subst same
        simp [here, Except.toOption]
      · simp [same]

end Entries

/-! ## Compiling -/

/-- Every phrase of a table is the compiled form of the text that it is kept under. -/
def CompiledForms (kept : Table Phrase) : Prop :=
  ∀ text phrase, kept.get? text = some phrase → Phrase.compile text = .ok phrase

theorem CompiledForms.empty : CompiledForms .empty := nofun

theorem CompiledForms.insert {kept : Table Phrase} {text : String} {phrase : Phrase}
    (forms : CompiledForms kept) (compiled : Phrase.compile text = .ok phrase) :
    CompiledForms (kept.insert text phrase) := by
  intro other found asked
  rw [Table.get?_insert] at asked
  split at asked
  · rename_i same
    cases asked
    rw [same, compiled]
  · exact forms other found asked

namespace Catalog

/-- The phrase of a text under a key, compiled for itself. -/
def compileAt (locale key text : String) : Except CatalogError Phrase :=
  (Phrase.compile text).mapError (.phrase locale key)

theorem compileEntries_eq_tryMap (locale : String) {seen : Table Phrase}
    (forms : CompiledForms seen) (texts : Entries String) :
    compileEntries locale seen texts = texts.tryMap (compileAt locale) := by
  induction texts generalizing seen with
  | nil => rfl
  | cons entry rest ih =>
      obtain ⟨key, text⟩ := entry
      rw [compileEntries, Entries.tryMap, compileAt]
      cases kept : seen.get? text with
      | some phrase =>
          simp only [forms text phrase kept, Except.mapError, ih forms]
          cases Entries.tryMap (compileAt locale) rest <;> rfl
      | none =>
          cases compiled : Phrase.compile text with
          | error error => rfl
          | ok phrase =>
              simp only [Except.mapError, ih (forms.insert compiled)]
              cases Entries.tryMap (compileAt locale) rest <;> rfl

/-- The phrases of a catalog are those of its texts as if each were compiled for itself. -/
theorem entries_compilePhrases (locale : String) (texts : Table String) :
    (compilePhrases locale texts).map (·.entries) = texts.entries.tryMap (compileAt locale) := by
  rw [compilePhrases, compileEntries_eq_tryMap locale .empty]
  cases compiled : texts.entries.tryMap (compileAt locale) with
  | error error => rfl
  | ok phrases =>
      have ascending : phrases.Ascending := by
        rw [Entries.ascending_iff_names, Entries.tryMap_names compiled]
        exact Entries.ascending_iff_names.mp texts.ascending
      exact congrArg Except.ok ascending.ordered_eq

theorem tryMap_of_compilePhrases {locale : String} {texts : Table String}
    {phrases : Table Phrase} (success : compilePhrases locale texts = .ok phrases) :
    texts.entries.tryMap (compileAt locale) = .ok phrases.entries := by
  rw [← entries_compilePhrases, success]
  rfl

theorem madeFrom_of_ofDefinition {base : Scope} {definition : Definition} {catalog : Catalog}
    (made : ofDefinition base definition = .ok catalog) :
    catalog.MadeFrom definition.tree := by
  unfold ofDefinition at made
  split at made
  · cases made
  · rename_i texts flattened
    cases compiled : compilePhrases definition.locale texts with
    | error error =>
        rw [compiled] at made
        cases made
    | ok phrases =>
        rw [compiled] at made
        cases made
        exact ⟨definition.locale, texts, flattened, compiled⟩

/-- Under the key of a text stands its compiled form. -/
theorem get?_of_compilePhrases {locale key text : String} {texts : Table String}
    {phrases : Table Phrase} (success : compilePhrases locale texts = .ok phrases)
    (found : texts.get? key = some text) :
    ∃ phrase, Phrase.compile text = .ok phrase ∧ phrases.get? key = some phrase := by
  have each := tryMap_of_compilePhrases success
  have present : (phrases.get? key).isSome := by
    rw [Table.get?, Entries.isSome_find?_iff, Entries.tryMap_names each,
      ← Entries.isSome_find?_iff, ← Table.get?, found]
    rfl
  rw [Table.get?, Entries.find?_tryMap each, ← Table.get?, found, Option.bind_some,
    compileAt] at present ⊢
  cases compiled : Phrase.compile text with
  | error error => simp [compiled, Except.mapError, Except.toOption] at present
  | ok phrase => exact ⟨phrase, rfl, by simp [Except.mapError, Except.toOption]⟩

/-- The phrase under a key is the compiled form of the text under it. -/
theorem get?_compilePhrases {locale : String} {texts : Table String} {phrases : Table Phrase}
    (success : compilePhrases locale texts = .ok phrases) (key : String) :
    phrases.get? key = (texts.get? key).bind fun text => (Phrase.compile text).toOption := by
  cases found : texts.get? key with
  | none =>
      rw [Table.get?, Entries.find?_tryMap (tryMap_of_compilePhrases success), ← Table.get?, found]
      rfl
  | some text =>
      obtain ⟨phrase, compiled, same⟩ := get?_of_compilePhrases success found
      rw [same, Option.bind_some, compiled]
      rfl

/-- Every phrase of a catalog is the compiled form of a text. -/
theorem text_of_compilePhrases {locale key : String} {texts : Table String}
    {phrases : Table Phrase} {phrase : Phrase}
    (success : compilePhrases locale texts = .ok phrases) (found : phrases.get? key = some phrase) :
    ∃ text, texts.get? key = some text ∧ Phrase.compile text = .ok phrase := by
  rw [get?_compilePhrases success] at found
  obtain ⟨text, asked, compiled⟩ := Option.bind_eq_some_iff.mp found
  refine ⟨text, asked, ?_⟩
  cases outcome : Phrase.compile text with
  | error error => simp [outcome, Except.toOption] at compiled
  | ok form =>
      rw [outcome] at compiled
      cases compiled
      rfl

end Catalog

end Phrasebook
