import Phrasebook.Proofs.Book.Failure

/-!
# Successful operations

What an operation does to a book when it succeeds, said once for each kind of operation
(`Effect`). The laws of the single parts of a book follow by cases on it, and none of them opens
an operation again.

`run_induction` and `succeeded_induction` carry a relation between a book and the operations that
have succeeded so far from one effect to all histories. Operations that fail are no case of them,
because they change nothing.
-/

namespace Phrasebook

namespace Operation

/-- The locale that an operation defines which needs no earlier definition of it. -/
@[simp] def introduces? : Operation → Option String
  | .define definition => some definition.locale
  | .defineText locale _ => some locale
  | .load locale _ => some locale
  | _ => none

/-- The locale that an operation defines, for the first time or again. -/
@[simp] def defines? : Operation → Option String
  | .reload locale => some locale
  | operation => operation.introduces?

@[simp] def activates? : Operation → Option String
  | .activate locale => some locale
  | _ => none

/-- The path of a load of a locale. -/
@[simp] def loads? (locale : String) : Operation → Option String
  | .load name path => if name = locale then some path else none
  | _ => none

/-- Whether an operation defines a locale by a text. -/
@[simp] def forgets (locale : String) : Operation → Bool
  | .defineText name _ => name = locale
  | _ => false

end Operation

namespace Book

/-- The book with a catalog in place of any that the locale had. -/
def withCatalog (book : Book) (locale : String) (catalog : Catalog) : Book :=
  { book with
    catalogs := book.catalogs.insert locale catalog
    active := book.active <|> some locale }

section

variable (book : Book) (locale : String) (catalog : Catalog)

@[simp] theorem base_withCatalog : (book.withCatalog locale catalog).base = book.base := rfl

@[simp] theorem catalogs_withCatalog :
    (book.withCatalog locale catalog).catalogs = book.catalogs.insert locale catalog := rfl

@[simp] theorem active_withCatalog :
    (book.withCatalog locale catalog).active = book.active.or (some locale) := by
  simp [withCatalog]

@[simp] theorem origins_withCatalog :
    (book.withCatalog locale catalog).origins = book.origins := rfl

@[simp] theorem templates_withCatalog :
    (book.withCatalog locale catalog).templates = book.templates := rfl

end

/-- The book behind an operation that succeeds. -/
inductive Effect (book : Book) (read : FileReader) : Operation → Book → Prop
  | define {definition : Definition} {catalog : Catalog}
      (made : Catalog.ofDefinition book.base definition = .ok catalog) :
      Effect book read (.define definition) (book.withCatalog definition.locale catalog)
  | defineText {locale text : String} {tree : Json} {catalog : Catalog}
      (parsed : Json.read text = .ok tree)
      (made : Catalog.ofDefinition book.base { locale := locale, tree := tree } = .ok catalog) :
      Effect book read (.defineText locale text)
        { book.withCatalog locale catalog with origins := book.origins.erase locale }
  | load {locale path text : String} {tree : Json} {catalog : Catalog}
      (found : read path = .ok text) (parsed : Json.read text = .ok tree)
      (made : Catalog.ofDefinition book.base { locale := locale, tree := tree } = .ok catalog) :
      Effect book read (.load locale path)
        { book.withCatalog locale catalog with origins := book.origins.insert locale path }
  | reload {locale path text : String} {tree : Json} {catalog : Catalog}
      (known : book.origins.get? locale = some path)
      (found : read path = .ok text) (parsed : Json.read text = .ok tree)
      (made : Catalog.ofDefinition book.base { locale := locale, tree := tree } = .ok catalog) :
      Effect book read (.reload locale)
        { book.withCatalog locale catalog with origins := book.origins.insert locale path }
  | activate {locale : String} (defined : book.catalogs.contains locale) :
      Effect book read (.activate locale) { book with active := some locale }
  | translate {key : String} {params : Params} : Effect book read (.translate key params) book
  | translateIn {locale key : String} {params : Params} :
      Effect book read (.translateIn locale key params) book
  | renderKept {text : String} {params : Params} {phrase : Phrase}
      (kept : book.templates.get? text = some phrase) :
      Effect book read (.render text params) book
  | renderNew {text : String} {params : Params} {phrase : Phrase}
      (compiled : Phrase.compile text = .ok phrase) :
      Effect book read (.render text params)
        { book with templates := book.templates.insert text phrase }
  | clearTemplates : Effect book read .clearTemplates { book with templates := .empty }
  | register {name : String} {formatter : Formatter} :
      Effect book read (.register name formatter)
        { book with
          base := book.base.register name formatter
          catalogs := book.catalogs.map fun catalog =>
            { catalog with scope := catalog.scope.register name formatter } }
  | changeBase {change : Scope → Scope} :
      Effect book read (.changeBase change) { book with base := change book.base }
  | changeCatalog {locale : String} {change : Scope → Scope} :
      Effect book read (.changeCatalog locale change)
        { book with
          catalogs := book.catalogs.modify locale fun catalog =>
            { catalog with scope := change catalog.scope } }
  | replaceCatalog {locale : String} {made : MadeCatalog} :
      Effect book read (.replaceCatalog locale made)
        { book with catalogs := book.catalogs.modify locale fun _ => made.catalog }

variable {book after : Book} {read : FileReader} {operation : Operation}

/-! ## Every success is an effect -/

theorem define_succeeded {definition : Definition} {count : Nat}
    (done : book.define definition = (.ok count, after)) :
    ∃ catalog, Catalog.ofDefinition book.base definition = .ok catalog ∧
      after = book.withCatalog definition.locale catalog := by
  unfold define at done
  cases made : Catalog.ofDefinition book.base definition with
  | error cause =>
      rw [made] at done
      cases done
  | ok catalog =>
      rw [made] at done
      cases done
      exact ⟨catalog, rfl, rfl⟩

theorem defineText_succeeded {locale text : String} {count : Nat}
    (done : book.defineText locale text = (.ok count, after)) :
    ∃ tree catalog, Json.read text = .ok tree ∧
      Catalog.ofDefinition book.base { locale := locale, tree := tree } = .ok catalog ∧
      after = { book.withCatalog locale catalog with origins := book.origins.erase locale } := by
  unfold defineText at done
  split at done
  · cases done
  · rename_i tree parsed
    split at done
    · rename_i defined
      cases done
      obtain ⟨catalog, made, rfl⟩ := define_succeeded defined
      exact ⟨tree, catalog, parsed, made, rfl⟩
    · rename_i failed
      exact absurd done (failed _ _)

theorem load_succeeded {locale path : String} {count : Nat}
    (done : book.load read locale path = (.ok count, after)) :
    ∃ text tree catalog, read path = .ok text ∧ Json.read text = .ok tree ∧
      Catalog.ofDefinition book.base { locale := locale, tree := tree } = .ok catalog ∧
      after =
        { book.withCatalog locale catalog with origins := book.origins.insert locale path } := by
  unfold load at done
  split at done
  · cases done
  · rename_i text found
    split at done
    · cases done
    · rename_i tree parsed
      split at done
      · rename_i defined
        cases done
        obtain ⟨catalog, made, rfl⟩ := define_succeeded defined
        exact ⟨text, tree, catalog, found, parsed, made, rfl⟩
      · rename_i failed
        exact absurd done (failed _ _)

theorem render_succeeded {text : String} {params : Params} {shown : String}
    (done : book.render text params = (.ok shown, after)) :
    Effect book read (.render text params) after := by
  unfold render template at done
  cases kept : book.templates.get? text with
  | some phrase =>
      simp only [kept] at done
      cases done
      exact .renderKept kept
  | none =>
      cases compiled : Phrase.compile text with
      | error cause =>
          simp only [kept, compiled] at done
          cases done
      | ok phrase =>
          simp only [kept, compiled] at done
          cases done
          exact .renderNew compiled

theorem answering_eq_ok_iff {ε α : Type} {failure : ε → OperationError} {answer : α → Answer}
    {result : Except ε α × Book} {given : Answer} :
    answering failure answer result = (.ok given, after) ↔
      ∃ value, result = (.ok value, after) ∧ answer value = given := by
  obtain ⟨outcome, book⟩ := result
  cases outcome with
  | ok value => simp [answering, and_comm]
  | error cause => simp [answering]

theorem effect_of_perform {answer : Answer}
    (done : book.perform read operation = (.ok answer, after)) :
    Effect book read operation after := by
  cases operation with
  | define definition =>
      obtain ⟨count, done, -⟩ := answering_eq_ok_iff.mp done
      obtain ⟨catalog, made, rfl⟩ := define_succeeded done
      exact .define made
  | defineText locale text =>
      obtain ⟨count, done, -⟩ := answering_eq_ok_iff.mp done
      obtain ⟨tree, catalog, parsed, made, rfl⟩ := defineText_succeeded done
      exact .defineText parsed made
  | load locale path =>
      obtain ⟨count, done, -⟩ := answering_eq_ok_iff.mp done
      obtain ⟨text, tree, catalog, found, parsed, made, rfl⟩ := load_succeeded done
      exact .load found parsed made
  | reload locale =>
      obtain ⟨count, done, -⟩ := answering_eq_ok_iff.mp done
      unfold reload at done
      split at done
      · cases done
      · rename_i path known
        obtain ⟨text, tree, catalog, found, parsed, made, rfl⟩ := load_succeeded done
        exact .reload known found parsed made
  | activate locale =>
      obtain ⟨⟨⟩, done, -⟩ := answering_eq_ok_iff.mp done
      unfold activate at done
      split_ifs at done with defined
      · cases done
        exact .activate defined
      · cases done
  | translateIn locale key params =>
      obtain ⟨shown, done, -⟩ := answering_eq_ok_iff.mp done
      obtain rfl := congrArg Prod.snd done
      exact .translateIn
  | render text params =>
      obtain ⟨shown, done, -⟩ := answering_eq_ok_iff.mp done
      exact render_succeeded done
  | translate key params =>
      cases done
      exact .translate
  | clearTemplates =>
      cases done
      exact .clearTemplates
  | register name formatter =>
      cases done
      exact .register
  | changeBase change =>
      cases done
      exact .changeBase
  | changeCatalog locale change =>
      cases done
      exact .changeCatalog
  | replaceCatalog locale made =>
      cases done
      exact .replaceCatalog

/-! ## The parts of a book -/

theorem mem_locales_iff {name : String} :
    name ∈ book.locales ↔ (book.catalogs.get? name).isSome :=
  Table.mem_names_iff

/-- The locale that an operation defines is there, and no locale is ever taken away. -/
theorem Effect.mem_locales (effect : Effect book read operation after) {name : String} :
    name ∈ after.locales ↔ name ∈ book.locales ∨ operation.defines? = some name := by
  unfold locales
  cases effect with
  | define | defineText | load | reload => simp [Table.mem_names_insert]
  | register => simp [Table.names_map]
  | changeCatalog | replaceCatalog => simp [Table.mem_names_modify]
  | _ => simp

/-- An activation decides alone; a definition only where no locale is active. -/
theorem Effect.active (effect : Effect book read operation after) :
    after.active = operation.activates?.or (book.active.or operation.defines?) := by
  cases effect <;> simp

/-- A load remembers its path, a text makes the path forgotten, and all else leaves it. -/
theorem Effect.origin (effect : Effect book read operation after) (locale : String) :
    after.origins.get? locale =
      if operation.forgets locale then none
      else (operation.loads? locale).or (book.origins.get? locale) := by
  cases effect with
  | @defineText name =>
      rw [Table.get?_erase]
      by_cases same : locale = name <;> simp [same, eq_comm]
  | @load name path =>
      rw [Table.get?_insert]
      by_cases same : locale = name <;> simp [same, eq_comm]
  | @reload name path text tree catalog known =>
      -- The path that is remembered is the one that was remembered before.
      rw [Table.get?_insert]
      by_cases same : locale = name <;> simp [same, known]
  | _ => simp

/-! ## Histories -/

/-- The operations of a history that succeed. -/
def succeeded (book : Book) (history : List (Operation × FileReader)) : List Operation :=
  (book.succeeding history).map (·.1)

theorem head?_filterMap_concat {α β : Type} (f : α → Option β) (front : List α) (last : α) :
    ((front ++ [last]).filterMap f).head? = (front.filterMap f).head?.or (f last) := by
  cases found : f last <;> simp [List.filterMap_append, found]

theorem getLast?_filterMap_concat {α β : Type} (f : α → Option β) (front : List α) (last : α) :
    ((front ++ [last]).filterMap f).getLast? = (f last).or (front.filterMap f).getLast? := by
  cases found : f last <;> simp [List.filterMap_append, found]

theorem run_append (book : Book) (front back : List (Operation × FileReader)) :
    book.run (front ++ back) = (book.run front).run back := by
  induction front generalizing book with
  | nil => rfl
  | cons step rest ih => exact ih _

/-- A relation between a book and the operations behind it holds of a history if it holds at its
start and every effect keeps it. -/
theorem run_induction {start : Book} {motive : Book → List (Operation × FileReader) → Prop}
    (initial : motive start [])
    (step : ∀ {done book after operation read}, start.run done = book → motive book done →
      Effect book read operation after → motive after (done ++ [(operation, read)]))
    (history : List (Operation × FileReader)) :
    motive (start.run history) (start.succeeding history) := by
  suffices general : ∀ (history done : List (Operation × FileReader)) (book : Book),
      start.run done = book → motive book done →
        motive (book.run history) (done ++ book.succeeding history) from
    general history [] start rfl initial
  intro history
  induction history with
  | nil =>
      intro done book _ holds
      simpa [run, succeeding] using holds
  | cons next rest ih =>
      obtain ⟨operation, read⟩ := next
      intro done book reached holds
      rw [run_cons]
      cases performed : book.perform read operation with
      | mk answer after =>
          cases answer with
          | ok answer =>
              have reachedAfter : start.run (done ++ [(operation, read)]) = after := by
                rw [run_append, reached, run_cons, performed]
                rfl
              have holdsAfter := step reached holds (effect_of_perform performed)
              simpa [succeeding, performed] using ih _ after reachedAfter holdsAfter
          | error error =>
              have same := perform_failed performed
              subst same
              simpa [succeeding, performed] using ih done after reached holds

/-- The same for a relation that does not ask what an operation reads or where it starts. -/
theorem succeeded_induction {start : Book} {motive : Book → List Operation → Prop}
    (initial : motive start [])
    (step : ∀ {operations book after operation read}, motive book operations →
      Effect book read operation after → motive after (operations ++ [operation]))
    (history : List (Operation × FileReader)) :
    motive (start.run history) (start.succeeded history) := by
  refine run_induction (motive := fun book done => motive book (done.map (·.1))) initial ?_ history
  intro done book after operation read _ holds effect
  rw [List.map_append]
  exact step holds effect

end Book

end Phrasebook
