import Phrasebook.Proofs.Book.Definition

/-!
# Registered formatters

A formatter that is registered stands in every copy of the table of formatters: the one that
locales start from and the one of each locale (`Registered`). Every later copy is made from the
first and covered by overrides at most, so an operation that spares the name keeps all copies as
they are (`Registered.step`), and the formatter is found under its name in every locale, however
late that is defined (`registered_formatter_stays`).
-/

namespace Phrasebook

namespace Book

variable {book after : Book} {read : FileReader} {operation : Operation} {name : String}
  {formatter : Formatter}

/-- A name has a formatter in the scope that locales start from and in every locale. -/
structure Registered (book : Book) (name : String) (formatter : Formatter) : Prop where
  base : book.base.formatters.get? name = some formatter
  locales : ∀ locale catalog, book.catalogs.get? locale = some catalog →
    catalog.scope.formatters.get? name = some formatter

/-- Whether an operation on a book registers nothing under a name: neither for all locales, nor in
the scope that locales start from, nor in a locale, nor among the overrides of a definition. A
change of a scope, and a catalog in the place of another, is judged by what the name has before and
behind it. -/
def Spares (book : Book) (name : String) : Operation → Prop
  | .register other _ => other ≠ name
  | .changeBase change =>
    (change book.base).formatters.get? name = book.base.formatters.get? name
  | .changeCatalog locale change => ∀ catalog, book.catalogs.get? locale = some catalog →
    (change catalog.scope).formatters.get? name = catalog.scope.formatters.get? name
  | .replaceCatalog locale made => ∀ catalog, book.catalogs.get? locale = some catalog →
    made.catalog.scope.formatters.get? name = catalog.scope.formatters.get? name
  | .define definition => definition.overrides.formatters.get? name = none
  | _ => True

/-- A history in which nothing is registered under a name. -/
def SparedBy (book : Book) (name : String) (history : List (Operation × FileReader)) : Prop :=
  ∀ front operation read back, book.succeeding history = front ++ (operation, read) :: back →
    (book.run front).Spares name operation

/-! ## One operation -/

theorem registered_register (book : Book) (name : String) (formatter : Formatter) :
    (book.register name formatter).Registered name formatter where
  base := Table.get?_insert_self book.base.formatters name formatter
  locales := by
    intro locale catalog found
    rw [register, Table.get?_map] at found
    obtain ⟨old, -, rfl⟩ := Option.map_eq_some_iff.mp found
    exact Table.get?_insert_self old.scope.formatters name formatter

/-- A catalog that is made without a formatter of its own takes the one of the book. -/
theorem Registered.of_ofDefinition (registered : book.Registered name formatter)
    {definition : Definition} {catalog : Catalog}
    (made : Catalog.ofDefinition book.base definition = .ok catalog)
    (spared : definition.overrides.formatters.get? name = none) :
    catalog.scope.formatters.get? name = some formatter := by
  obtain ⟨texts, -, follows⟩ := Catalog.follows_of_ofDefinition made
  rw [follows.formatters, spared, Option.none_or]
  exact registered.base

theorem Registered.withCatalog (registered : book.Registered name formatter) (locale : String)
    {catalog : Catalog} (found : catalog.scope.formatters.get? name = some formatter) :
    (book.withCatalog locale catalog).Registered name formatter where
  base := registered.base
  locales := by
    intro other stored known
    rw [catalogs_withCatalog, Table.get?_insert] at known
    split_ifs at known with same
    · cases known
      exact found
    · exact registered.locales other stored known

/-- A tree brings no formatters of its own, wherever it comes from. -/
theorem Registered.withTree (registered : book.Registered name formatter) {locale : String}
    {tree : Json} {catalog : Catalog}
    (made : Catalog.ofDefinition book.base { locale := locale, tree := tree } = .ok catalog)
    (origins : Table String) :
    { book.withCatalog locale catalog with origins := origins }.Registered name formatter := by
  have own : catalog.scope.formatters.get? name = some formatter :=
    registered.of_ofDefinition made rfl
  obtain ⟨base, locales⟩ := registered.withCatalog locale own
  exact ⟨base, locales⟩

/-- An operation that spares a name keeps its formatter in every place. -/
theorem Registered.step (registered : book.Registered name formatter)
    (effect : Effect book read operation after) (spared : book.Spares name operation) :
    after.Registered name formatter := by
  cases effect with
  | define made => exact registered.withCatalog _ (registered.of_ofDefinition made spared)
  | defineText _ made => exact registered.withTree made _
  | load _ _ made => exact registered.withTree made _
  | reload _ _ _ made => exact registered.withTree made _
  | @register other new =>
      have apart : name ≠ other := fun same => spared same.symm
      refine ⟨(Table.get?_insert_of_ne _ apart _).trans registered.base, ?_⟩
      intro locale catalog found
      rw [Table.get?_map] at found
      obtain ⟨old, known, rfl⟩ := Option.map_eq_some_iff.mp found
      exact (Table.get?_insert_of_ne _ apart _).trans (registered.locales locale old known)
  | changeBase => exact ⟨spared.trans registered.base, registered.locales⟩
  | changeCatalog | replaceCatalog =>
      refine ⟨registered.base, ?_⟩
      intro locale catalog found
      rw [Table.get?_modify] at found
      split_ifs at found with same
      · subst same
        obtain ⟨old, known, rfl⟩ := Option.map_eq_some_iff.mp found
        exact (spared old known).trans (registered.locales locale old known)
      · exact registered.locales locale catalog found
  | activate | translate | translateIn | renderKept | renderNew | clearTemplates =>
      exact ⟨registered.base, registered.locales⟩

/-! ## Histories -/

theorem registered_run {history : List (Operation × FileReader)}
    (registered : book.Registered name formatter) (spared : book.SparedBy name history) :
    (book.run history).Registered name formatter := by
  refine run_induction
    (motive := fun current done =>
      (∀ front operation read back, done = front ++ (operation, read) :: back →
        (book.run front).Spares name operation) → current.Registered name formatter)
    (fun _ => registered) ?_ history spared
  intro done current after operation read reached holds effect spared
  have before : current.Registered name formatter := by
    apply holds
    rintro front earlier earlierRead back rfl
    exact spared front earlier earlierRead (back ++ [(operation, read)]) (by simp)
  have here : current.Spares name operation := reached ▸ spared done operation read [] rfl
  exact before.step effect here

theorem succeeding_sublist (book : Book) (history : List (Operation × FileReader)) :
    (book.succeeding history).Sublist history := by
  induction history generalizing book with
  | nil => exact List.Sublist.slnil
  | cons step rest ih =>
      obtain ⟨operation, read⟩ := step
      rw [succeeding]
      cases book.perform read operation with
      | mk answer after =>
          cases answer with
          | ok answer => exact (ih after).cons_cons (operation, read)
          | error error => exact (ih after).cons (operation, read)

/-- A history of operations that spare a name wherever they are performed. -/
theorem sparedBy_of_forall {history : List (Operation × FileReader)}
    (spares : ∀ step ∈ history, ∀ current : Book, current.Spares name step.1) :
    book.SparedBy name history := by
  intro front operation read back split
  have member : (operation, read) ∈ book.succeeding history := by
    rw [split]
    exact List.mem_append_right front List.mem_cons_self
  exact spares _ ((succeeding_sublist book history).mem member) (book.run front)

/-- **A registered formatter reaches every locale.** When a formatter is registered in a book, its
name has it in the scope that locales start from and in every locale, every other name has there
what it had, and nothing else of the book changes. It keeps its place through every history in
which nothing is registered under the name, also in the locales that are defined, redefined or
loaded again in it. -/
theorem registered_formatter_stays (base : Scope) (history : List (Operation × FileReader))
    (name : String) (formatter : Formatter) :
    let book := (ofScope base).run history
    let after := book.register name formatter
    after.Registered name formatter ∧
    (∀ other, other ≠ name →
      after.base.formatters.get? other = book.base.formatters.get? other ∧
        ∀ locale, (after.catalogs.get? locale).map (·.scope.formatters.get? other) =
          (book.catalogs.get? locale).map (·.scope.formatters.get? other)) ∧
    (∀ locale,
      (after.catalogs.get? locale).map (·.phrases) =
          (book.catalogs.get? locale).map (·.phrases) ∧
        (after.catalogs.get? locale).map (·.scope.settings) =
          (book.catalogs.get? locale).map (·.scope.settings)) ∧
    after.locales = book.locales ∧ after.base.settings = book.base.settings ∧
    after.active = book.active ∧ after.origins = book.origins ∧
    after.templates = book.templates ∧
    ∀ further, after.SparedBy name further → (after.run further).Registered name formatter := by
  intro book after
  have stored : ∀ locale, after.catalogs.get? locale = (book.catalogs.get? locale).map
      fun catalog => { catalog with scope := catalog.scope.register name formatter } :=
    Table.get?_map _ book.catalogs
  refine ⟨registered_register book name formatter, ?_, ?_, Table.names_map _ book.catalogs,
    rfl, rfl, rfl, rfl, fun further => registered_run (registered_register book name formatter)⟩
  · intro other different
    refine ⟨Table.get?_insert_of_ne _ different _, fun locale => ?_⟩
    rw [stored, Option.map_map]
    refine congrArg (Option.map · _) (funext fun catalog => ?_)
    exact Table.get?_insert_of_ne _ different _
  · intro locale
    rw [stored, Option.map_map, Option.map_map]
    exact ⟨rfl, rfl⟩

/-- A locale with an override of its own is defined anew, another is loaded twice, and another name
is registered in between. -/
theorem registered_formatter_stays_redefined :
    let file : FileReader := fun _ => .ok "\x7b\"n\":\"\x7b\x7bn, mark\x7d\x7d\"\x7d"
    let marked : Formatter := fun value _ _ => "#" ++ value.plainText
    let starred : Formatter := fun value _ _ => "*" ++ value.plainText
    let overrides : Scope := ⟨.ofEntries [("mark", marked)], .empty⟩
    let tree : Json := .object [("n", .string "\x7b\x7bn, mark\x7d\x7d")]
    let history : List (Operation × FileReader) := [(.define ⟨"en", tree, overrides⟩, file)]
    let further : List (Operation × FileReader) :=
      [(.load "de" "de.json", file), (.changeBase (·.register "other" marked), file),
        (.define ⟨"en", tree, ⟨.empty, .empty⟩⟩, file), (.reload "de", file)]
    let book := new.run history
    let after := book.register "mark" starred
    let params : Params := .ofEntries [("n", .number 5)]
    book.translateIn "en" "n" params = .ok "#5" ∧ after.SparedBy "mark" further ∧
      (after.run further).locales = ["de", "en"] ∧
      (after.run further).Registered "mark" starred ∧
      (after.run further).translateIn "de" "n" params = .ok "*5" := by
  intro file marked starred overrides tree history further book after params
  have spared : after.SparedBy "mark" further := by
    apply sparedBy_of_forall
    intro step member current
    simp only [further, List.mem_cons, List.not_mem_nil, or_false] at member
    rcases member with rfl | rfl | rfl | rfl
    · trivial
    · exact Table.get?_insert_of_ne _ (by decide) _
    · exact Table.get?_empty "mark"
    · trivial
  obtain ⟨-, -, -, -, -, -, -, -, stays⟩ :=
    registered_formatter_stays .builtIn history "mark" starred
  exact ⟨by decide +kernel, spared, by decide +kernel, stays further spared, by decide +kernel⟩

end Book

end Phrasebook
