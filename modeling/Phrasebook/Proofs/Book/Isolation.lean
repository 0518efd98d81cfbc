import Phrasebook.Proofs.Book.Effect

/-!
# Locales do not interfere

A catalog is a copy: it takes the formatters and the settings of the book when its locale is
defined, and after that only operations that name the locale change it, and `register`, which
reaches every locale on purpose (`Operation.affects`). So no other operation, and none that
fails, changes a text of the locale (`locales_do_not_interfere`).
-/

namespace Phrasebook

/-- Whether an operation changes the catalog of a locale when it succeeds. -/
@[simp] def Operation.affects (locale : String) : Operation → Bool
  | .register _ _ => true
  | .changeCatalog name _ => name = locale
  | .replaceCatalog name _ => name = locale
  | operation => operation.defines? = some locale

namespace Book

open Operation

variable {book after : Book} {read : FileReader} {operation : Operation} {locale : String}
  {history : List (Operation × FileReader)}

theorem Effect.catalog_of_apart (effect : Effect book read operation after)
    (apart : operation.affects locale = false) :
    after.catalogs.get? locale = book.catalogs.get? locale := by
  cases effect with
  | define | defineText | load | reload =>
      rw [catalogs_withCatalog]
      refine Table.get?_insert_of_ne _ ?_ _
      rintro rfl
      simp at apart
  | @changeCatalog name _ | @replaceCatalog name _ =>
      have different : ¬ locale = name := by
        rintro rfl
        simp at apart
      rw [Table.get?_modify, if_neg different]
  | register => cases apart
  | _ => rfl

theorem catalog_run
    (apart : ∀ operation ∈ book.succeeded history, operation.affects locale = false) :
    (book.run history).catalogs.get? locale = book.catalogs.get? locale := by
  refine succeeded_induction
    (motive := fun current operations =>
      (∀ operation ∈ operations, operation.affects locale = false) →
        current.catalogs.get? locale = book.catalogs.get? locale) ?_ ?_ history apart
  · intro _
    rfl
  · intro operations current after operation read same effect apart
    rw [effect.catalog_of_apart (apart operation (by simp))]
    exact same fun earlier member => apart earlier (by simp [member])

/-- **Locales do not interfere.** A locale that is defined keeps its text under every key, with all
parameters, over any history whose successes leave its catalog alone: definitions, failed ones of
the locale itself among them, changes of other locales and of the base, activations, renderings
and clearings. -/
theorem locales_do_not_interfere (defined : locale ∈ book.locales)
    (apart : ∀ operation ∈ book.succeeded history, operation.affects locale = false)
    (key : String) (params : Params) :
    ∃ text, book.translateIn locale key params = .ok text ∧
      (book.run history).translateIn locale key params = .ok text := by
  obtain ⟨catalog, found⟩ := Option.isSome_iff_exists.mp (mem_locales_iff.mp defined)
  have kept : (book.run history).catalogs.get? locale = some catalog :=
    (catalog_run apart).trans found
  refine ⟨catalog.translate key params, ?_, ?_⟩
  · simp only [translateIn, found]
  · simp only [translateIn, kept]

/-- A locale with a formatter of its own, behind a definition of it that fails and changes of all
else. -/
theorem locales_do_not_interfere_own_formatter :
    let file : FileReader := fun _ => .error .notFound
    let marked : Formatter := fun value _ _ => "#" ++ value.plainText
    let starred : Formatter := fun value _ _ => "*" ++ value.plainText
    let tree : Json := .object [("n", .string "\x7b\x7bn, number\x7d\x7d")]
    let book := new.run
      [(.define ⟨"en", tree, ⟨.ofEntries [("number", marked)], .empty⟩⟩, file),
        (.define ⟨"de", tree, ⟨.empty, .empty⟩⟩, file)]
    let history : List (Operation × FileReader) :=
      [(.defineText "en" "\x7b\x22n\x22: 1\x7d", file), (.load "en" "en.json", file),
        (.changeBase (·.register "number" starred), file),
        (.changeCatalog "de" (·.register "number" starred), file),
        (.define ⟨"de", .object [], ⟨.empty, .empty⟩⟩, file), (.activate "de", file),
        (.render "\x7b\x7bn, number\x7d\x7d" .empty, file), (.clearTemplates, file)]
    let params : Params := .ofEntries [("n", .number 5)]
    "en" ∈ book.locales ∧
      (∀ operation ∈ book.succeeded history, operation.affects "en" = false) ∧
      (book.succeeded history).length = 6 ∧
      (book.run history).translateIn "en" "n" params = .ok "#5" := by
  intro file marked starred tree book history params
  have defined : "en" ∈ book.locales := by decide +kernel
  have apart : ∀ operation ∈ book.succeeded history, operation.affects "en" = false := by
    decide +kernel
  have before : book.translateIn "en" "n" params = .ok "#5" := by decide +kernel
  obtain ⟨text, same, after⟩ := locales_do_not_interfere defined apart "n" params
  refine ⟨defined, apart, by decide +kernel, ?_⟩
  rw [after, ← same, before]

end Book

end Phrasebook
