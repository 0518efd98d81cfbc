import Phrasebook.Proofs.Book.Definition
import Phrasebook.Proofs.Book.Isolation
import Phrasebook.Proofs.Tree.Subtree

/-!
# Namespaces

A namespace is the key of a way from the root of a tree to an object in it, and what a book shows
below the namespace is what it would show of the object alone (`namespace_shows_subtree`). On the
level of keys this is `find?_keyed_of_reaches`; compiling does not look at the keys, so it carries
over to catalogs (`part_of_ofDefinition`), and a book shows the catalog of its active locale.

The names of the tree must not contain dots. A key that is asked for may, and may be empty.
-/

namespace Phrasebook

open PhraseTree

namespace Catalog

/-- An object in a tree that makes a catalog makes one itself, with the phrases below the way to
it and the same scope. -/
theorem part_of_ofDefinition {base overrides : Scope} {locale : String} {tree inner : Json}
    {path : List String} {whole : Catalog}
    (made : ofDefinition base ⟨locale, tree, overrides⟩ = .ok whole) (undotted : DotFree tree)
    (reaches : Reaches path tree inner) (nonempty : path ≠ []) (object : inner.isObject = true)
    (other : String) :
    ∃ part, ofDefinition base ⟨other, inner, overrides⟩ = .ok part ∧ part.scope = whole.scope ∧
      ∀ name, whole.phrases.get? (key path ++ "." ++ name) = part.phrases.get? name := by
  obtain ⟨texts, phrases, flattened, success, rfl⟩ := ofDefinition_eq_ok_iff.mp made
  obtain ⟨-, good, rfl⟩ := flatten_eq_ok_iff.mp flattened
  have within : ∀ name, (Table.ofEntries (keyed tree)).get? (key path ++ "." ++ name) =
      (Table.ofEntries (keyed inner)).get? name := by
    intro name
    rw [Table.get?_ofEntries, Table.get?_ofEntries]
    exact find?_keyed_of_reaches reaches nonempty object undotted name
  -- A text of the object is one of the tree, so it compiles.
  obtain ⟨parts, partSuccess⟩ : ∃ parts,
      compilePhrases other (.ofEntries (keyed inner)) = .ok parts := by
    refine exists_compilePhrases (fun name text found => ?_) other
    obtain ⟨phrase, compiled, -⟩ := get?_of_compilePhrases success ((within name).trans found)
    exact ⟨phrase, compiled⟩
  refine ⟨⟨parts, base.overlay overrides⟩, ?_, rfl, fun name => ?_⟩
  · have flat : flatten other inner = .ok (.ofEntries (keyed inner)) :=
      flatten_eq_ok_iff.mpr ⟨object, reaches.isPhrases good, rfl⟩
    exact ofDefinition_eq_ok_iff.mpr ⟨_, parts, flat, partSuccess, rfl⟩
  · rw [get?_compilePhrases success, get?_compilePhrases partSuccess, within]

end Catalog

namespace Book

/-- Whether the active locale has a phrase under a key. -/
def hasPhrase (book : Book) (name : String) : Bool :=
  book.activeCatalog?.any (·.phrases.contains name)

/-- A book shows a definition that was made over a base if it is the one of its active locale, and
nothing that was done since then has changed the catalog. -/
inductive Shows (base : Scope) (definition : Definition) : Book → Prop
  | intro {book after : Book} {count : Nat} {history : List (Operation × FileReader)} :
      book.base = base → book.define definition = (.ok count, after) →
      (∀ operation ∈ after.succeeded history, operation.affects definition.locale = false) →
      (after.run history).active = some definition.locale →
      Shows base definition (after.run history)

theorem Shows.activeCatalog? {base : Scope} {definition : Definition} {shown : Book}
    (shows : Shows base definition shown) :
    ∃ catalog, Catalog.ofDefinition base definition = .ok catalog ∧
      shown.activeCatalog? = some catalog := by
  cases shows with
  | intro same defined apart active =>
      obtain ⟨catalog, made, -, rfl⟩ := define_eq_ok_iff.mp defined
      refine ⟨catalog, same ▸ made, ?_⟩
      rw [Book.activeCatalog?, active, Option.bind_some, catalog_run apart]
      exact Table.get?_insert_self _ _ _

/-- **Namespaces.** In a tree whose names are without dots, a way leads to an object. Every book
with the same base accepts the object alone, and where the tree is shown by one book and the object
by another one, the first has a phrase under a key below the way exactly if the other has one under
the key. Below the namespace the first then gives the text that the other gives; otherwise both
give the key that they were asked for, in brackets. -/
theorem namespace_shows_subtree {base overrides : Scope} {locale : String} {tree inner : Json}
    {path : List String} {whole : Book} (shown : Shows base ⟨locale, tree, overrides⟩ whole)
    (undotted : DotFree tree) (reaches : Reaches path tree inner) (nonempty : path ≠ [])
    (object : inner.isObject = true) (other : String) :
    (∀ book : Book, book.base = base →
      ∃ count after, book.define ⟨other, inner, overrides⟩ = (.ok count, after)) ∧
    ∀ alone, Shows base ⟨other, inner, overrides⟩ alone → ∀ name params,
      whole.hasPhrase (key path ++ "." ++ name) = alone.hasPhrase name ∧
      (alone.hasPhrase name = true →
        whole.translateBelow (key path) name params = alone.translate name params) ∧
      (alone.hasPhrase name = false →
        whole.translateBelow (key path) name params = "[" ++ key path ++ "." ++ name ++ "]" ∧
        alone.translate name params = "[" ++ name ++ "]") := by
  obtain ⟨catalog, made, active⟩ := shown.activeCatalog?
  obtain ⟨part, accepted, scope, below⟩ :=
    Catalog.part_of_ofDefinition made undotted reaches nonempty object other
  refine ⟨fun book same => ?_, fun alone shownAlone name params => ?_⟩
  · exact ⟨_, _, define_eq_ok_iff.mpr ⟨part, same ▸ accepted, rfl, rfl⟩⟩
  · obtain ⟨found, again, activeAlone⟩ := shownAlone.activeCatalog?
    obtain rfl : part = found := Except.ok.inj (accepted.symm.trans again)
    simp only [hasPhrase, translateBelow, translate, Catalog.translate, active, activeAlone,
      Option.any_some, Table.contains, below, scope]
    cases part.phrases.get? name with
    | none => simp [missingText, String.append_assoc]
    | some phrase => simp

/-- A nested object with an empty name in it, in a tree that is not the first one of its book, and
a key next to the object. -/
theorem namespace_shows_subtree_empty_name :
    let file : FileReader := fun _ => .error .notFound
    let own : Scope := ⟨.empty, .empty⟩
    let inner : Json :=
      .object [("", .string "\x7b\x7bn\x7d\x7d files"), ("open", .string "Open")]
    let tree : Json :=
      .object [("menu", .object [("file", inner), ("quit", .string "Quit")]),
        ("menufile", .string "Menu")]
    let path := ["menu", "file"]
    let first := new.run [(.define ⟨"de", .object [], own⟩, file)]
    let whole := (first.define ⟨"en", tree, own⟩).2.run [(.activate "en", file)]
    let alone := (new.define ⟨"part", inner, own⟩).2.run []
    let params : Params := .ofEntries [("n", .number 5)]
    Shows .builtIn ⟨"en", tree, own⟩ whole ∧ DotFree tree ∧ Reaches path tree inner ∧
      path ≠ [] ∧ inner.isObject = true ∧ Shows .builtIn ⟨"part", inner, own⟩ alone ∧
      whole.translateBelow (key path) "" params = "5 files" ∧
      whole.translateBelow (key path) "quit" params = "[menu.file.quit]" := by
  intro file own inner tree path first whole alone params
  have shown : Shows .builtIn ⟨"en", tree, own⟩ whole :=
    .intro rfl (show first.define ⟨"en", tree, own⟩ = (.ok 4, _) by rfl) (by decide +kernel)
      (by decide +kernel)
  have shownAlone : Shows .builtIn ⟨"part", inner, own⟩ alone :=
    .intro rfl (show new.define ⟨"part", inner, own⟩ = (.ok 2, _) by rfl) (by decide +kernel)
      (by decide +kernel)
  have undotted : DotFree tree := by decide +kernel
  have within : Reaches ["file"] (.object [("file", inner), ("quit", .string "Quit")]) inner :=
    @Reaches.member _ _ [] [("quit", .string "Quit")] _ _ (by decide +kernel) .here
  have reaches : Reaches path tree inner :=
    @Reaches.member _ _ [] [("menufile", .string "Menu")] _ _ (by decide +kernel) within
  have nonempty : path ≠ [] := List.cons_ne_nil _ _
  obtain ⟨-, same⟩ := namespace_shows_subtree shown undotted reaches nonempty rfl "part"
  have given := (same alone shownAlone "" params).2.1 (by decide +kernel)
  have missing := (same alone shownAlone "quit" params).2.2 (by decide +kernel)
  refine ⟨shown, undotted, reaches, nonempty, rfl, shownAlone, ?_, ?_⟩
  · rw [given]
    decide +kernel
  · rw [missing.1]
    decide +kernel

end Book

end Phrasebook
