import Phrasebook.Proofs.Book.Effect

/-!
# The active locale

Which locale is active, which locales there are and which paths are remembered is kept in three
parts of a book that change at different operations. `Settled` says how the three hang together
and how the operations behind the book determine them. Every effect keeps it, so it holds after
every history (`settled_run`).

The first definition makes its locale active because no locale is active before it. A reload is
never the first: it needs a path, and paths are remembered only for locales that are defined.
-/

namespace Phrasebook

namespace Book

open Operation

variable {book after : Book} {read : FileReader} {operation : Operation}
  {operations : List Operation}

/-- The parts of a book that say which locales there are, and the operations behind them. -/
structure Settled (book : Book) (operations : List Operation) : Prop where
  active : book.active =
    (operations.filterMap activates?).getLast?.or (operations.filterMap introduces?).head?
  activeDefined : ∀ name, book.active = some name → name ∈ book.locales
  someActive : ∀ name ∈ book.locales, book.active.isSome
  originDefined : ∀ name path, book.origins.get? name = some path → name ∈ book.locales
  locales : ∀ name, name ∈ book.locales ↔ name ∈ operations.filterMap defines?

theorem Effect.activates_mem (effect : Effect book read operation after) {name : String}
    (activated : operation.activates? = some name) : name ∈ book.locales := by
  cases effect with
  | activate defined =>
      cases activated
      exact Table.mem_names_iff.mpr defined
  | _ => cases activated

/-- Where a path is remembered only if a locale is active, a reload activates nothing. -/
theorem Effect.active_introduces (effect : Effect book read operation after)
    (backed : ∀ name path, book.origins.get? name = some path → book.active.isSome) :
    after.active = operation.activates?.or (book.active.or operation.introduces?) := by
  rw [effect.active]
  cases effect with
  | reload known =>
      obtain ⟨name, active⟩ := Option.isSome_iff_exists.mp (backed _ _ known)
      rw [active]
      rfl
  | _ => rfl

theorem defines?_of_loads? {name path : String} (loaded : operation.loads? name = some path) :
    operation.defines? = some name := by
  cases operation with
  | load locale file =>
      have same : locale = name := by
        by_contra different
        simp [different] at loaded
      simp [same]
  | _ => cases loaded

theorem Effect.originDefined (effect : Effect book read operation after)
    (defined : ∀ name path, book.origins.get? name = some path → name ∈ book.locales)
    {name path : String} (known : after.origins.get? name = some path) : name ∈ after.locales := by
  rw [effect.origin] at known
  split at known
  · cases known
  · rw [effect.mem_locales]
    rcases Option.or_eq_some_iff.mp known with loaded | ⟨-, before⟩
    · exact .inr (defines?_of_loads? loaded)
    · exact .inl (defined name path before)

theorem Settled.start (base : Scope) : Settled (ofScope base) [] where
  active := rfl
  activeDefined := nofun
  someActive := nofun
  originDefined := nofun
  locales := fun _ => Iff.rfl

theorem Settled.step (settled : Settled book operations)
    (effect : Effect book read operation after) : Settled after (operations ++ [operation]) where
  active := by
    have backed : ∀ name path, book.origins.get? name = some path → book.active.isSome :=
      fun name path known => settled.someActive name (settled.originDefined name path known)
    rw [effect.active_introduces backed, settled.active, head?_filterMap_concat,
      getLast?_filterMap_concat, Option.or_assoc, Option.or_assoc]
  activeDefined := by
    intro name active
    rw [effect.active] at active
    rw [effect.mem_locales]
    rcases Option.or_eq_some_iff.mp active with activated | ⟨-, active⟩
    · exact .inl (effect.activates_mem activated)
    · rcases Option.or_eq_some_iff.mp active with before | ⟨-, defined⟩
      · exact .inl (settled.activeDefined name before)
      · exact .inr defined
  someActive := by
    intro name member
    rw [effect.active]
    rcases effect.mem_locales.mp member with before | defined
    · have active := settled.someActive name before
      rw [Option.isSome_or, Option.isSome_or, active, Bool.true_or, Bool.or_true]
    · rw [Option.isSome_or, Option.isSome_or, defined, Option.isSome_some, Bool.or_true,
        Bool.or_true]
  originDefined := fun name path known => effect.originDefined settled.originDefined known
  locales := by
    intro name
    rw [effect.mem_locales, settled.locales, List.filterMap_append, List.mem_append]
    simp

theorem settled_run (base : Scope) (history : List (Operation × FileReader)) :
    Settled ((ofScope base).run history) ((ofScope base).succeeded history) := by
  refine succeeded_induction (.start base) ?_ history
  intro operations book after operation read settled effect
  exact settled.step effect

/-- A catalog is active in a settled book as soon as there is a locale. -/
theorem Settled.isSome_activeCatalog? (settled : Settled book operations) :
    book.activeCatalog?.isSome ↔ book.locales ≠ [] := by
  unfold activeCatalog?
  cases active : book.active with
  | none =>
      have empty : book.locales = [] := List.eq_nil_iff_forall_not_mem.mpr fun name member => by
        have some := settled.someActive name member
        simp [active] at some
      simp [empty]
  | some name =>
      have member := settled.activeDefined name active
      simp [mem_locales_iff.mp member, List.ne_nil_of_mem member]

/-- **The active locale.** The target of the latest activation is active or, if there was none, the
locale of the first definition. It is a locale of the book, so there is an active catalog as soon
as there is a locale, and only defined locales have a path to load them from again. The locales
are those that have been defined. -/
theorem active_locale_of_history (base : Scope) (history : List (Operation × FileReader)) :
    let book := (ofScope base).run history
    let done := (ofScope base).succeeded history
    book.active = (done.filterMap activates?).getLast?.or (done.filterMap introduces?).head? ∧
      (∀ name, book.active = some name → name ∈ book.locales) ∧
      (book.activeCatalog?.isSome ↔ book.locales ≠ []) ∧
      (∀ name path, book.origins.get? name = some path → name ∈ book.locales) ∧
      ∀ name, name ∈ book.locales ↔ name ∈ done.filterMap defines? := by
  intro book done
  have settled := settled_run base history
  exact ⟨settled.active, settled.activeDefined, settled.isSome_activeCatalog?,
    settled.originDefined, settled.locales⟩

/-- A locale activated behind the first definition, with failures in front and behind. -/
theorem active_locale_of_history_with_failures :
    let file : FileReader := fun _ => .ok "\x7b\x7d"
    let history : List (Operation × FileReader) :=
      [(.activate "de", file), (.defineText "fr" "\x7b", file), (.load "en" "en.json", file),
        (.defineText "de" "\x7b\x7d", file), (.activate "de", file), (.reload "en", file),
        (.activate "fr", file)]
    let book := new.run history
    book.active = some "de" ∧ "de" ∈ book.locales ∧ "fr" ∉ book.locales := by
  intro file history book
  obtain ⟨-, activeDefined, -, -, -⟩ := active_locale_of_history .builtIn history
  have active : book.active = some "de" := by decide +kernel
  exact ⟨active, activeDefined "de" active, by decide +kernel⟩

end Book

end Phrasebook
