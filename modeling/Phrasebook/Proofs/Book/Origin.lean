import Phrasebook.Proofs.Book.Effect

/-!
# Loading again

Whether a locale can be loaded again, and from which path, is read off its history
(`originOf_run`): the latest definition of it that was not given as a tree decides, and the path is
that of the latest load. A definition that is given as a tree has no part in this. It replaces
the phrases and leaves the path, so such a locale is loaded from a file that it no longer comes
from; `reload_reads_iff` says exactly when that happens.
-/

namespace Phrasebook

namespace Operation

/-- Whether an operation defines a locale by a file. -/
@[simp] def fromFile : Operation → Bool
  | .load _ _ => true
  | .reload _ => true
  | _ => false

/-- Whether an operation defines a locale by a tree that is given itself. -/
@[simp] def fromTree : Operation → Bool
  | .define _ => true
  | _ => false

/-- Whether an operation defines a locale. -/
@[simp] def isDefinition (locale : String) (operation : Operation) : Bool :=
  operation.defines? = some locale

/-- Whether an operation defines a locale by a file or by a text. -/
@[simp] def isWritten (locale : String) (operation : Operation) : Bool :=
  operation.isDefinition locale && !operation.fromTree

/-- The latest operation of a kind. -/
def latest? (kind : Operation → Bool) (operations : List Operation) : Option Operation :=
  (operations.filter kind).getLast?

theorem latest?_concat (kind : Operation → Bool) (operations : List Operation)
    (operation : Operation) :
    latest? kind (operations ++ [operation]) =
      if kind operation then some operation else latest? kind operations := by
  unfold latest?
  cases counts : kind operation <;> simp [List.filter_append, counts]

end Operation

namespace Book

open Operation

variable {book after : Book} {read : FileReader} {operation : Operation}

/-- What the operations behind a book say about the origin of a locale. -/
structure OriginOf (operations : List Operation) (locale : String) (origin : Option String) :
    Prop where
  known : origin.isSome = (latest? (isWritten locale) operations).any fromFile
  path : ∀ path, origin = some path → (operations.filterMap (loads? locale)).getLast? = some path

/-- An operation that neither writes a locale nor loads it is no news of its origin. -/
theorem OriginOf.skip {operations : List Operation} {locale : String} {origin : Option String}
    (holds : OriginOf operations locale origin) (unwritten : operation.isWritten locale = false)
    (unloaded : operation.loads? locale = none) :
    OriginOf (operations ++ [operation]) locale origin where
  known := by rw [latest?_concat, unwritten, holds.known]; rfl
  path := by
    rw [getLast?_filterMap_concat, unloaded, Option.none_or]
    exact holds.path

theorem OriginOf.step {operations : List Operation} {locale : String}
    (holds : OriginOf operations locale (book.origins.get? locale))
    (effect : Effect book read operation after) :
    OriginOf (operations ++ [operation]) locale (after.origins.get? locale) := by
  rw [effect.origin locale]
  cases effect with
  | @defineText name =>
      by_cases same : name = locale
      · constructor <;> simp [latest?_concat, same]
      · simpa [same] using holds.skip (by simp [same]) rfl
  | @load name path =>
      by_cases same : name = locale
      · constructor <;> simp [latest?_concat, same]
      · simpa [same] using holds.skip (by simp [same]) (by simp [same])
  | @reload name path text tree catalog known =>
      by_cases same : name = locale
      · -- The locale has a path, and by `holds` it is the one of the latest load.
        subst same
        constructor
        · simp [latest?_concat, known]
        · simpa using holds.path
      · simpa using holds.skip (by simp [same]) rfl
  | _ => simpa using holds.skip (by simp) rfl

theorem originOf_run (base : Scope) (history : List (Operation × FileReader)) (locale : String) :
    OriginOf ((ofScope base).succeeded history) locale
      (((ofScope base).run history).origins.get? locale) := by
  refine succeeded_induction
    (motive := fun book operations => OriginOf operations locale (book.origins.get? locale))
    ?_ ?_ history
  · exact ⟨rfl, nofun⟩
  · intro operations book after operation read holds effect
    exact holds.step effect

/-! ## What a reload does -/

/-- Loading reads the path that it is given: no other path does for every way to read files. -/
theorem reload_eq_load_iff {locale path : String} :
    (∀ read, book.reload read locale = book.load read locale path) ↔
      book.origins.get? locale = some path := by
  constructor
  · intro same
    have unreadable := same fun _ => .error .notFound
    unfold reload at unreadable
    cases known : book.origins.get? locale with
    | none => simp [known, load] at unreadable
    | some other =>
        simp only [known, load, Prod.mk.injEq, Except.error.injEq,
          DefineError.file.injEq] at unreadable
        rw [unreadable.1.1]
  · intro known read
    simp only [reload, known]

theorem reload_eq_noOrigin_iff {locale : String} :
    (∀ read, book.reload read locale = (.error (.noOrigin locale), book)) ↔
      book.origins.get? locale = none := by
  constructor
  · intro failing
    have unreadable := failing fun _ => .error .notFound
    unfold reload at unreadable
    cases known : book.origins.get? locale with
    | none => rfl
    | some path => simp [known, load] at unreadable
  · intro unknown read
    simp only [reload, unknown]

/-- If the latest definition was by a file or by a text, it is the latest of those, too. -/
theorem latest?_isWritten {operations : List Operation} {locale : String}
    (written : (latest? (isDefinition locale) operations).any fromTree = false) :
    latest? (isWritten locale) operations = latest? (isDefinition locale) operations := by
  induction operations using List.reverseRecOn with
  | nil => rfl
  | append_singleton front operation ih =>
      rw [latest?_concat] at written ⊢
      rw [latest?_concat]
      cases defines : operation.isDefinition locale with
      | false => simp_all
      | true => simp_all

theorem not_fromFile_of_fromTree {latest : Option Operation} (tree : latest.any fromTree = true) :
    latest.any fromFile = false := by
  cases latest with
  | none => rfl
  | some operation => cases operation <;> simp_all

/-- **Loading again.** A locale can be loaded again iff the latest definition of it by a file or by
a text was by a file. What is read is then the path of its latest load, and otherwise nothing is.
So the latest definition of all decides, unless it was by a tree and the one before by a file. -/
theorem reload_reads_iff (base : Scope) (history : List (Operation × FileReader))
    (locale : String) :
    let book := (ofScope base).run history
    let done := (ofScope base).succeeded history
    let Reads := ∃ path, (done.filterMap (loads? locale)).getLast? = some path ∧
      ∀ read, book.reload read locale = book.load read locale path
    (Reads ↔ (latest? (isWritten locale) done).any fromFile) ∧
      (¬ Reads ↔ ∀ read, book.reload read locale = (.error (.noOrigin locale), book)) ∧
      ((Reads ↔ (latest? (isDefinition locale) done).any fromFile) ↔
        ¬ ((latest? (isDefinition locale) done).any fromTree ∧
          (latest? (isWritten locale) done).any fromFile)) := by
  intro book done Reads
  obtain ⟨known, latestLoad⟩ := originOf_run base history locale
  have reads : Reads ↔ (latest? (isWritten locale) done).any fromFile := by
    rw [← known]
    constructor
    · rintro ⟨path, -, same⟩
      rw [reload_eq_load_iff.mp same]
      rfl
    · intro remembered
      obtain ⟨path, found⟩ := Option.isSome_iff_exists.mp remembered
      exact ⟨path, latestLoad path found, reload_eq_load_iff.mpr found⟩
  refine ⟨reads, ?_, ?_⟩
  · rw [reads, ← known, reload_eq_noOrigin_iff]
    simp [book]
  · rw [reads]
    cases tree : (latest? (isDefinition locale) done).any fromTree with
    | false => simp [latest?_isWritten tree]
    | true => simp [not_fromFile_of_fromTree tree]

/-- A file, and then a tree in its place: the file is still read, and the tree is lost. -/
theorem reload_reads_behind_tree :
    let file : FileReader := fun _ => .ok "\x7b\x22a\x22:\x22A\x22\x7d"
    let history : List (Operation × FileReader) :=
      [(.load "en" "en.json", file),
        (.define { locale := "en", tree := .object [("a", .string "B")] }, file)]
    let book := new.run history
    (latest? (isDefinition "en") (new.succeeded history)).any fromFile = false ∧
      (∀ read, book.reload read "en" = book.load read "en" "en.json") ∧
      book.translate "a" .empty = "B" ∧
      (book.reload file "en").2.translate "a" .empty = "A" := by
  intro file history book
  have known : book.origins.get? "en" = some "en.json" := by decide +kernel
  exact ⟨by decide +kernel, reload_eq_load_iff.mpr known, by decide +kernel, by decide +kernel⟩

end Book

end Phrasebook
