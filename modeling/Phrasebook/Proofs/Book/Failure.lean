import Phrasebook.Book.Operation
import Mathlib

/-!
# Failed operations

An operation that fails leaves the book exactly as it was, wherever it fails: in the file, in its
JSON text, at the root or at a leaf of the tree, at any phrase of it, at the name of a locale or
in a text that is rendered. Every operation has settled all that can fail before it changes
anything, and `load` and `defineText` change the origins only behind a definition that succeeded.

So a failure leaves no trace in a history: without its failed operations a history leads to the
same book (`failures_change_nothing`).
-/

namespace Phrasebook

namespace Book

variable {book after : Book} {read : FileReader}

/-! ## The operations one by one -/

theorem define_failed {definition : Definition} {error : DefineError}
    (failed : book.define definition = (.error error, after)) : after = book := by
  unfold define at failed
  cases made : Catalog.ofDefinition book.base definition with
  | error cause =>
      rw [made] at failed
      cases failed
      rfl
  | ok catalog =>
      rw [made] at failed
      cases failed

theorem defineText_failed {locale text : String} {error : DefineError}
    (failed : book.defineText locale text = (.error error, after)) : after = book := by
  unfold defineText at failed
  split at failed
  · cases failed
    rfl
  · -- The text is a tree, so it was the definition that failed.
    split at failed
    · cases failed
    · exact define_failed failed

theorem load_failed {locale path : String} {error : DefineError}
    (failed : book.load read locale path = (.error error, after)) : after = book := by
  unfold load at failed
  split at failed
  · cases failed
    rfl
  · split at failed
    · cases failed
      rfl
    · -- The file was read and is a tree, so it was the definition that failed.
      split at failed
      · cases failed
      · exact define_failed failed

theorem reload_failed {locale : String} {error : DefineError}
    (failed : book.reload read locale = (.error error, after)) : after = book := by
  unfold reload at failed
  split at failed
  · cases failed
    rfl
  · exact load_failed failed

theorem activate_failed {locale : String} {error : LocaleNotFound}
    (failed : book.activate locale = (.error error, after)) : after = book := by
  unfold activate at failed
  split_ifs at failed with defined
  · cases failed
  · cases failed
    rfl

/-- A text that does not compile is not kept. -/
theorem template_failed {text : String} {error : CompileError}
    (failed : book.template text = (.error error, after)) : after = book := by
  unfold template at failed
  split at failed
  · cases failed
  · split at failed
    · cases failed
      rfl
    · cases failed

theorem render_failed {text : String} {params : Params} {error : CompileError}
    (failed : book.render text params = (.error error, after)) : after = book := by
  unfold render at failed
  split at failed
  · cases failed
  · rename_i kept cause compiled
    cases failed
    exact template_failed compiled

/-! ## Any operation -/

/-- An operation whose answer is given in another type fails iff it fails. -/
theorem answering_eq_error_iff {ε α : Type} {failure : ε → OperationError} {answer : α → Answer}
    {result : Except ε α × Book} {error : OperationError} :
    answering failure answer result = (.error error, after) ↔
      ∃ cause, result = (.error cause, after) ∧ failure cause = error := by
  obtain ⟨outcome, book⟩ := result
  cases outcome with
  | ok value => simp [answering]
  | error cause => simp [answering, and_comm]

theorem perform_failed {operation : Operation} {error : OperationError}
    (failed : book.perform read operation = (.error error, after)) : after = book := by
  cases operation with
  | define definition =>
      obtain ⟨cause, failed, -⟩ := answering_eq_error_iff.mp failed
      exact define_failed failed
  | defineText locale text =>
      obtain ⟨cause, failed, -⟩ := answering_eq_error_iff.mp failed
      exact defineText_failed failed
  | load locale path =>
      obtain ⟨cause, failed, -⟩ := answering_eq_error_iff.mp failed
      exact load_failed failed
  | reload locale =>
      obtain ⟨cause, failed, -⟩ := answering_eq_error_iff.mp failed
      exact reload_failed failed
  | activate locale =>
      obtain ⟨cause, failed, -⟩ := answering_eq_error_iff.mp failed
      exact activate_failed failed
  | translateIn locale key params =>
      -- A translation hands the book on as it is.
      obtain ⟨cause, failed, -⟩ := answering_eq_error_iff.mp failed
      exact (congrArg Prod.snd failed).symm
  | render text params =>
      obtain ⟨cause, failed, -⟩ := answering_eq_error_iff.mp failed
      exact render_failed failed
  -- The other operations have no way to fail.
  | translate key params => cases failed
  | clearTemplates => cases failed
  | register name formatter => cases failed
  | changeBase change => cases failed
  | changeCatalog locale change => cases failed
  | replaceCatalog locale made => cases failed

/-! ## Histories -/

/-- The operations of a history that succeed when they are performed one after the other. -/
def succeeding (book : Book) : List (Operation × FileReader) → List (Operation × FileReader)
  | [] => []
  | (operation, read) :: rest =>
    match book.perform read operation with
    | (.ok _, after) => (operation, read) :: after.succeeding rest
    | (.error _, after) => after.succeeding rest

theorem run_cons (book : Book) (operation : Operation) (read : FileReader)
    (rest : List (Operation × FileReader)) :
    book.run ((operation, read) :: rest) = (book.perform read operation).2.run rest := rfl

theorem run_succeeding (book : Book) (history : List (Operation × FileReader)) :
    book.run (book.succeeding history) = book.run history := by
  induction history generalizing book with
  | nil => rfl
  | cons step rest ih =>
      obtain ⟨operation, read⟩ := step
      rw [run_cons]
      cases performed : book.perform read operation with
      | mk answer after =>
          cases answer with
          | ok answer =>
              simp only [succeeding, performed]
              rw [run_cons, performed, ih]
          | error error =>
              -- The rest of the history starts from the book that the failure left as it was.
              have same := perform_failed performed
              subst same
              simp only [succeeding, performed, ih]

/-- **Failures change nothing.** The book behind an operation that fails is the book before it,
and a history leads to the same book without the operations of it that fail. -/
theorem failures_change_nothing (book : Book) :
    (∀ operation read error after, book.perform read operation = (.error error, after) →
      after = book) ∧
    ∀ history, book.run (book.succeeding history) = book.run history :=
  ⟨fun _ _ _ _ failed => perform_failed failed, run_succeeding book⟩

end Book

end Phrasebook
