import Phrasebook.Proofs.Book.Definition
import Phrasebook.Proofs.Tree.Leaves
import Phrasebook.Report.Check

/-!
# How many phrases a tree has

A locale has one phrase for each key of its tree, and where two leaves share a key it is the text
of the later one. The number that a definition answers, and that a report of the file gives, is
the number of different keys; it is the number of leaves iff no two of them share a key
(`flatten_keeps_last_leaf`). Leaves share keys only if a name contains a dot.
-/

namespace Phrasebook

open PhraseTree

namespace PhraseTree

/-- Under a key stands the text of the last leaf with that key. -/
theorem get?_of_flatten {locale : String} {tree : Json} {texts : Table String}
    (accepted : flatten locale tree = .ok texts) {name text : String} :
    texts.get? name = some text ↔
      ∃ front path back, leaves tree = front ++ (path, text) :: back ∧ key path = name ∧
        ∀ leaf ∈ back, key leaf.1 ≠ name := by
  obtain ⟨-, -, rfl⟩ := flatten_eq_ok_iff.mp accepted
  rw [Table.get?_ofEntries, Entries.find?_eq_some_iff, keyed]
  constructor
  · rintro ⟨front, back, split, last⟩
    obtain ⟨before, rest, whole, rfl, ends⟩ := List.map_eq_append_iff.mp split
    obtain ⟨⟨path, text⟩, behind, rfl, here, rfl⟩ := List.map_eq_cons_iff.mp ends
    cases here
    refine ⟨before, path, behind, whole, rfl, fun leaf member => ?_⟩
    exact last _ (List.mem_map.mpr ⟨leaf, member, rfl⟩)
  · rintro ⟨front, path, back, split, rfl, last⟩
    refine ⟨front.map fun leaf => (key leaf.1, leaf.2), back.map fun leaf => (key leaf.1, leaf.2),
      by simp [split], ?_⟩
    intro later member
    obtain ⟨leaf, inside, rfl⟩ := List.mem_map.mp member
    exact last leaf inside

/-- The keys of a table are those of the leaves. -/
theorem mem_names_of_flatten {locale : String} {tree : Json} {texts : Table String}
    (accepted : flatten locale tree = .ok texts) {name : String} :
    name ∈ texts.names ↔ ∃ leaf ∈ leaves tree, key leaf.1 = name := by
  obtain ⟨-, -, rfl⟩ := flatten_eq_ok_iff.mp accepted
  rw [Table.mem_names_iff, Table.get?_ofEntries, Entries.isSome_find?_iff]
  simp [keyed]

/-- There are as many texts as different keys. -/
theorem size_of_flatten {locale : String} {tree : Json} {texts : Table String}
    (accepted : flatten locale tree = .ok texts) :
    texts.size = ((leaves tree).map fun leaf => key leaf.1).dedup.length := by
  obtain ⟨-, -, rfl⟩ := flatten_eq_ok_iff.mp accepted
  rw [Table.size_ofEntries]
  simp [keyed, Function.comp_def]

end PhraseTree

namespace FileReport

variable {read : FileReader} {path locale : String} {tree : Json} {texts : Table String}

/-- A file with a tree that has texts is reported by these. -/
theorem ofFile_of_flatten (parsed : PhraseFile.readTree read path = .ok tree)
    (accepted : flatten locale tree = .ok texts) : ofFile read path = ofTexts path texts := by
  unfold ofFile
  simp only [parsed, flatten_locale accepted (PhraseFile.locale path)]

theorem phrases_ofFile (parsed : PhraseFile.readTree read path = .ok tree)
    (accepted : flatten locale tree = .ok texts) : (ofFile read path).phrases = texts.size := by
  rw [ofFile_of_flatten parsed accepted]
  rfl

end FileReport

namespace PhraseTree

/-- **Leaves and phrases.** The phrases of a tree that is flattened are its leaves under their
keys, without those that a later leaf with the same key replaces. A definition by the tree answers
with their number, and so does the report of a file with the tree: it is the number of different
keys, so it is the number of leaves iff these have different keys. All leaves are kept iff those
with one key have one text. Names without dots, each once in its object, make the keys
different. -/
theorem flatten_keeps_last_leaf {locale : String} {tree : Json} {texts : Table String}
    (accepted : flatten locale tree = .ok texts) :
    (∀ name text, texts.get? name = some text ↔
      ∃ front path back, leaves tree = front ++ (path, text) :: back ∧ key path = name ∧
        ∀ leaf ∈ back, key leaf.1 ≠ name) ∧
      texts.size = ((leaves tree).map fun leaf => key leaf.1).dedup.length ∧
      (∀ (book : Book) overrides count after,
        book.define ⟨locale, tree, overrides⟩ = (.ok count, after) → count = texts.size) ∧
      (∀ read path, PhraseFile.readTree read path = .ok tree →
        (FileReport.ofFile read path).phrases = texts.size) ∧
      (texts.size = (leaves tree).length ↔
        ((leaves tree).map fun leaf => key leaf.1).Nodup) ∧
      ((∀ leaf ∈ leaves tree, texts.get? (key leaf.1) = some leaf.2) ↔
        ∀ leaf ∈ leaves tree, ∀ other ∈ leaves tree, key leaf.1 = key other.1 →
          leaf.2 = other.2) ∧
      (Distinct tree → DotFree tree → texts.size = (leaves tree).length) := by
  have size := size_of_flatten accepted
  have full : texts.size = (leaves tree).length ↔
      ((leaves tree).map fun leaf => key leaf.1).Nodup := by
    rw [size, ← List.dedup_eq_self,
      ← List.length_map fun leaf : List String × String => key leaf.1]
    exact ⟨fun all => (List.dedup_sublist _).eq_of_length all, fun same => congrArg _ same⟩
  refine ⟨fun name text => get?_of_flatten accepted, size, ?_, ?_, full, ?_, ?_⟩
  · intro book overrides count after done
    obtain ⟨catalog, made, rfl, -⟩ := Book.define_eq_ok_iff.mp done
    obtain ⟨others, flattened, follows⟩ := Catalog.follows_of_ofDefinition made
    obtain rfl : others = texts := Except.ok.inj (flattened.symm.trans accepted)
    rw [Table.size_eq_length_names, Table.size_eq_length_names, follows.keys]
  · intro read path parsed
    exact FileReport.phrases_ofFile parsed accepted
  · constructor
    · intro kept leaf member other otherMember same
      have found := kept leaf member
      rw [same, kept other otherMember] at found
      exact (Option.some.inj found).symm
    · intro agree leaf member
      -- A text stands under the key, and it is that of a leaf with this key.
      have present : (texts.get? (key leaf.1)).isSome :=
        Table.mem_names_iff.mp ((mem_names_of_flatten accepted).mpr ⟨leaf, member, rfl⟩)
      obtain ⟨text, found⟩ := Option.isSome_iff_exists.mp present
      obtain ⟨front, path, back, split, same, -⟩ := (get?_of_flatten accepted).mp found
      have inside : (path, text) ∈ leaves tree := by
        rw [split]
        exact List.mem_append_right _ List.mem_cons_self
      rw [found, agree leaf member _ inside same.symm]
  · intro distinct undotted
    exact full.mpr (nodup_keys (flatten_eq_ok_iff.mp accepted).1 distinct undotted)

/-- Two leaves with one text, at different depths, are two phrases. -/
theorem flatten_keeps_last_leaf_equal_texts :
    let tree : Json := .object [("a", .object [("b", .string "X")]), ("c", .string "X")]
    let texts : Table String := .ofEntries [("a.b", "X"), ("c", "X")]
    flatten "en" tree = .ok texts ∧ Distinct tree ∧ DotFree tree ∧ texts.size = 2 ∧
      (Book.new.define ⟨"en", tree, ⟨.empty, .empty⟩⟩).1 = .ok 2 := by
  intro tree texts
  have accepted : flatten "en" tree = .ok texts := by rfl
  have distinct : Distinct tree := by decide +kernel
  have undotted : DotFree tree := by decide +kernel
  obtain ⟨-, -, answer, -, -, -, kept⟩ := flatten_keeps_last_leaf accepted
  have size : texts.size = 2 := kept distinct undotted
  obtain ⟨count, after, done⟩ : ∃ count after,
      Book.new.define ⟨"en", tree, ⟨.empty, .empty⟩⟩ = (.ok count, after) := ⟨_, _, by rfl⟩
  refine ⟨accepted, distinct, undotted, size, ?_⟩
  rw [done, answer _ _ _ _ done, size]

/-- A name with a dot spells the key of a way through an object, and the text at the end of the
way is lost. -/
theorem flatten_keeps_last_leaf_dotted_name :
    let tree : Json := .object [("a", .object [("b", .string "X")]), ("a.b", .string "Y")]
    let texts : Table String := .ofEntries [("a.b", "Y")]
    leaves tree = [(["a", "b"], "X"), (["a.b"], "Y")] ∧ flatten "en" tree = .ok texts ∧
      texts.size = 1 ∧ texts.get? (key ["a", "b"]) ≠ some "X" ∧
      (Book.new.define ⟨"en", tree, ⟨.empty, .empty⟩⟩).1 = .ok 1 := by
  intro tree texts
  exact ⟨by rfl, by rfl, by rfl, by decide +kernel, by rfl⟩

end PhraseTree

end Phrasebook
