import Phrasebook.Proofs.Template.Scan
import Mathlib

/-!
# What compiling gives

One exact law for each outcome of `Phrase.compile`: a text without the mark of a slot is plain
(`compile_eq_plain_iff`), a text with the mark is the template of the parts that spell it
(`compile_eq_template_iff`), and a text that reaches a fault is rejected with the first one
(`compile_eq_error_iff`). The last law is said without the scanner in `compile_rejects_iff`: what
is rejected are the texts with an unfinished clause of settings, and nothing else.
-/

namespace Phrasebook

/-- `Text.occurs` decides whether a mark is part of a text. -/
theorem Text.occurs_iff {mark text : List Char} :
    Text.occurs mark text = true ↔ mark <:+: text := by
  induction text with
  | nil => simp [Text.occurs]
  | cons c rest ih =>
      rw [Text.occurs, Bool.or_eq_true, List.isPrefixOf_iff_prefix, ih, List.infix_cons_iff]

namespace Template

/-- Whatever a scan reaches with two braces in front is part of the text. -/
theorem Reached.marked {text place inner : List Char} (reached : Reached text place)
    (braces : place = '{' :: '{' :: inner) : openMark <:+: text := by
  subst braces
  exact (List.prefix_append openMark inner).isInfix.trans reached.suffix.isInfix

end Template

namespace Phrase

open Template

theorem compile_eq_plain_iff {raw text : String} :
    compile raw = .ok (.plain text) ↔ ¬ openMark <:+: raw.toList ∧ text = raw := by
  rw [← Text.occurs_iff]
  unfold compile compileChars
  cases marked : Text.occurs openMark raw.toList with
  | false => simp [Except.mapError, eq_comm]
  | true =>
      cases parts raw.toList <;> simp [Except.mapError, bind, Except.bind, pure, Except.pure]

theorem compile_eq_template_iff {raw : String} {template : Template} :
    compile raw = .ok (.template template) ↔
      openMark <:+: raw.toList ∧ ∃ row, Spells row raw.toList ∧ template = ofParts row := by
  rw [← Text.occurs_iff]
  unfold compile compileChars
  cases marked : Text.occurs openMark raw.toList with
  | false => simp [Except.mapError]
  | true =>
      constructor
      · intro success
        cases scanned : parts raw.toList with
        | error fault =>
            simp [scanned, Except.mapError, bind, Except.bind] at success
        | ok row =>
            simp only [scanned, if_true, Except.mapError, bind, Except.bind, pure, Except.pure,
              Except.ok.injEq, Phrase.template.injEq] at success
            exact ⟨rfl, row, parts_eq_ok_iff.mp scanned, success.symm⟩
      · rintro ⟨-, row, spelled, rfl⟩
        rw [parts_eq_ok_iff.mpr spelled]
        rfl

theorem compile_eq_error_iff {raw : String} {error : CompileError} :
    compile raw = .error error ↔
      ∃ place fault, FirstFault raw.toList place fault ∧
        error = ⟨raw, .ofRest raw.toList fault.rest, fault.cause⟩ := by
  constructor
  · intro failure
    unfold compile compileChars at failure
    split at failure
    · cases scanned : parts raw.toList with
      | ok row => simp [scanned, Except.mapError, bind, Except.bind, pure, Except.pure] at failure
      | error fault =>
          simp only [scanned, Except.mapError, bind, Except.bind, Except.error.injEq] at failure
          obtain ⟨place, found⟩ := parts_eq_error_iff.mp scanned
          exact ⟨place, fault, found, failure.symm⟩
    · cases failure
  · rintro ⟨place, fault, found, rfl⟩
    -- A fault is behind two braces, so the text is not taken for a plain one.
    obtain ⟨inner, braces⟩ := found.wrong.braces
    have marked := Text.occurs_iff.mpr (found.reached.marked braces)
    unfold compile compileChars
    rw [if_pos marked, parts_eq_error_iff.mpr ⟨place, found⟩]
    rfl

/-! ## What is rejected -/

/-- A clause of settings is finished, or one of two things is wrong with it. -/
theorem not_objectClosed_iff {clause : List Char} :
    ¬ ObjectClosed clause ↔ ¬ BeginsObject clause ∨ ObjectUnclosed clause := by
  constructor
  · intro unfinished
    by_cases begins : BeginsObject clause
    · obtain ⟨object, settings, left, spelled, split⟩ := begins
      exact .inr ⟨object, settings, left, spelled, split,
        fun closed => unfinished ⟨object, settings, left, spelled, split, closed⟩⟩
    · exact .inl begins
  · rintro wrong ⟨object, settings, left, spelled, rfl, closed⟩
    rcases wrong with absent | ⟨other, otherSettings, otherLeft, otherSpelled, same, unclosed⟩
    · exact absent ⟨object, settings, left, spelled, rfl⟩
    · obtain ⟨-, rfl⟩ := spelled.unique otherSpelled same
      exact unclosed closed

/-- A clause of settings has a fault iff it is not finished. -/
theorem exists_clauseFault_iff {clause : List Char} (brace : clause.head? = some '{') :
    (∃ fault, ClauseFault clause fault) ↔ ¬ ObjectClosed clause := by
  rw [not_objectClosed_iff]
  constructor
  · rintro ⟨fault, wrong⟩
    cases wrong with
    | malformed absent _ => exact .inl absent
    | unclosed spelled split unclosed => exact .inr ⟨_, _, _, spelled, split, unclosed⟩
  · rintro (absent | ⟨object, settings, left, spelled, split, unclosed⟩)
    · obtain ⟨fault, fails⟩ := (not_beginsObject_iff brace).mp absent
      exact ⟨_, .malformed absent fails⟩
    · exact ⟨_, .unclosed spelled split unclosed⟩

theorem exists_malformed_iff {place : List Char} :
    (∃ fault, Malformed place fault) ↔
      ∃ clause, SettingsAt place clause ∧ ¬ ObjectClosed clause := by
  have brace : ∀ {clause}, SettingsAt place clause → clause.head? = some '{' := by
    rintro clause ⟨_, _, _, brace⟩
    exact brace
  constructor
  · rintro ⟨fault, clause, begins, wrong⟩
    exact ⟨clause, begins, (exists_clauseFault_iff (brace begins)).mp ⟨fault, wrong⟩⟩
  · rintro ⟨clause, begins, unfinished⟩
    obtain ⟨fault, wrong⟩ := (exists_clauseFault_iff (brace begins)).mpr unfinished
    exact ⟨fault, clause, begins, wrong⟩

/-- A text compiles iff no fault is reached in it. -/
theorem compile_eq_ok_iff_no_fault {raw : String} :
    (∃ phrase, compile raw = .ok phrase) ↔
      ∀ place fault, Reached raw.toList place → ¬ Malformed place fault := by
  constructor
  · rintro ⟨phrase, success⟩ place fault reached wrong
    cases phrase with
    | plain text =>
        obtain ⟨inner, braces⟩ := wrong.braces
        exact (compile_eq_plain_iff.mp success).1 (reached.marked braces)
    | template template =>
        obtain ⟨-, row, spelled, -⟩ := compile_eq_template_iff.mp success
        exact spelled.not_malformed reached wrong
  · intro right
    cases compiled : compile raw with
    | ok phrase => exact ⟨phrase, rfl⟩
    | error error =>
        obtain ⟨place, fault, found, -⟩ := compile_eq_error_iff.mp compiled
        exact absurd found.wrong (right place fault found.reached)

/-- **Rejection.** A text is rejected iff a scan reaches a clause of settings that is no object
or an object without the end of the slot behind it; every other text compiles. The error is that
of the first such place, and it carries the whole text. -/
theorem compile_rejects_iff (raw : String) :
    ((∃ error, compile raw = .error error) ↔
      ∃ place clause, Reached raw.toList place ∧ SettingsAt place clause ∧
        (¬ BeginsObject clause ∨ ObjectUnclosed clause)) ∧
    ((∃ phrase, compile raw = .ok phrase) ↔
      ∀ place clause, Reached raw.toList place → SettingsAt place clause →
        ObjectClosed clause) ∧
    ∀ error, compile raw = .error error ↔
      ∃ place fault, FirstFault raw.toList place fault ∧
        error = ⟨raw, .ofRest raw.toList fault.rest, fault.cause⟩ := by
  have accepted : (∃ phrase, compile raw = .ok phrase) ↔
      ∀ place clause, Reached raw.toList place → SettingsAt place clause →
        ObjectClosed clause := by
    rw [compile_eq_ok_iff_no_fault]
    constructor
    · intro right place clause reached begins
      by_contra unfinished
      obtain ⟨fault, wrong⟩ := exists_malformed_iff.mpr ⟨clause, begins, unfinished⟩
      exact right place fault reached wrong
    · intro finished place fault reached wrong
      obtain ⟨clause, begins, unfinished⟩ := exists_malformed_iff.mp ⟨fault, wrong⟩
      exact unfinished (finished place clause reached begins)
  refine ⟨?_, accepted, fun error => compile_eq_error_iff⟩
  constructor
  · rintro ⟨error, failure⟩
    obtain ⟨place, fault, found, -⟩ := compile_eq_error_iff.mp failure
    obtain ⟨clause, begins, unfinished⟩ := exists_malformed_iff.mp ⟨fault, found.wrong⟩
    exact ⟨place, clause, found.reached, begins, not_objectClosed_iff.mp unfinished⟩
  · rintro ⟨place, clause, reached, begins, wrong⟩
    cases compiled : compile raw with
    | error error => exact ⟨error, rfl⟩
    | ok phrase =>
        have closed := accepted.mp ⟨phrase, compiled⟩ place clause reached begins
        exact absurd closed (not_objectClosed_iff.mpr wrong)

end Phrase

end Phrasebook
