import Phrasebook.Proofs.Template.FaultPlace
import Mathlib

/-!
# The place of an unclosed slot

A slot whose settings are an object must end behind the object and any blanks. What stands there
instead is the place at which the text is rejected: the blanks are passed, and no more, whatever
the settings and the text in front of them are made of (`unclosed_place_iff`).
-/

namespace Phrasebook

namespace Template

/-- The first slot with a fault in a text has settings, the text `object`; behind them and the
blanks `blanks` comes `rest`, which is not the end of the slot. -/
structure FirstUnclosed (text place object blanks rest : List Char) : Prop where
  reached : Reached text place
  begins : SettingsAt place (object ++ blanks ++ rest)
  spelled : ∃ settings, Json.ObjectText object settings
  blank : Blanks blanks
  stops : Stops isBlank rest
  unclosed : ¬ ['}', '}'] <+: rest
  -- All settings that the scan reaches before are complete.
  first : ∀ other clause, Reached text other → SettingsAt other clause →
    place.length < other.length → ObjectClosed clause

theorem beginsClosing_append_iff {blanks rest : List Char} (blank : Blanks blanks)
    (stops : Stops isBlank rest) : BeginsClosing (blanks ++ rest) ↔ ['}', '}'] <+: rest := by
  constructor
  · rintro ⟨closing, behind, written, split⟩
    have skipped := congrArg skipBlanks split
    rw [skipBlanks_append blank, skipBlanks_of_stops stops, skipBlanks_closing written] at skipped
    exact ⟨behind, skipped.symm⟩
  · rintro ⟨behind, rfl⟩
    exact ⟨_, behind, .intro blank, (List.append_assoc _ _ _).symm⟩

/-- Where a slot is unclosed, the fault lies behind the object and the blanks. -/
theorem malformed_unclosed_iff {place rest : List Char} :
    Malformed place ⟨.unclosed, rest⟩ ↔
      ∃ object blanks, SettingsAt place (object ++ blanks ++ rest) ∧
        (∃ settings, Json.ObjectText object settings) ∧ Blanks blanks ∧ Stops isBlank rest ∧
        ¬ ['}', '}'] <+: rest := by
  constructor
  · rintro ⟨clause, begins, wrong⟩
    cases wrong with
    | @unclosed object left settings spelled split unclosed =>
        have blank := blanks_takeWhile left
        have stops : Stops isBlank (skipBlanks left) := stops_dropWhile isBlank left
        rw [← takeWhile_append_skipBlanks left] at split unclosed
        refine ⟨object, left.takeWhile isBlank, ?_, ⟨settings, spelled⟩, blank, stops, ?_⟩
        · rwa [List.append_assoc, ← split]
        · rwa [beginsClosing_append_iff blank stops] at unclosed
  · rintro ⟨object, blanks, begins, ⟨settings, spelled⟩, blank, stops, unclosed⟩
    rw [List.append_assoc] at begins
    have skipped : skipBlanks (blanks ++ rest) = rest := by
      rw [skipBlanks_append blank, skipBlanks_of_stops stops]
    have wrong := ClauseFault.unclosed spelled rfl
      ((beginsClosing_append_iff blank stops).not.mpr unclosed)
    rw [skipped] at wrong
    exact ⟨_, begins, wrong⟩

/-- No fault is reached before a place iff all settings that are reached before it are
complete. -/
theorem no_fault_before_iff {text place : List Char} :
    (∀ other otherFault, Reached text other → Malformed other otherFault →
        other.length ≤ place.length) ↔
      ∀ other clause, Reached text other → SettingsAt other clause →
        place.length < other.length → ObjectClosed clause := by
  constructor
  · intro first other clause reached begins before
    by_contra unfinished
    obtain ⟨fault, wrong⟩ := Phrase.exists_malformed_iff.mpr ⟨clause, begins, unfinished⟩
    exact absurd (first other fault reached wrong) before.not_ge
  · intro finished other fault reached wrong
    obtain ⟨clause, begins, unfinished⟩ := Phrase.exists_malformed_iff.mp ⟨fault, wrong⟩
    by_contra before
    exact unfinished (finished other clause reached begins (not_le.mp before))

theorem firstFault_unclosed_iff {text place rest : List Char} :
    FirstFault text place ⟨.unclosed, rest⟩ ↔
      ∃ object blanks, FirstUnclosed text place object blanks rest := by
  constructor
  · intro found
    obtain ⟨object, blanks, begins, spelled, blank, stops, unclosed⟩ :=
      malformed_unclosed_iff.mp found.wrong
    exact ⟨object, blanks, found.reached, begins, spelled, blank, stops, unclosed,
      no_fault_before_iff.mp found.first⟩
  · rintro ⟨object, blanks, found⟩
    exact ⟨found.reached, malformed_unclosed_iff.mpr ⟨object, blanks, found.begins,
      found.spelled, found.blank, found.stops, found.unclosed⟩, no_fault_before_iff.mpr found.first⟩

end Template

namespace Phrase

open Template

/-- **Unclosed slots.** A text is rejected for an unclosed slot iff the first slot with a fault is
one whose settings are an object without the end of the slot behind it. The error carries the
whole text. Its line is one more than the newlines, and its column one more than the characters
behind the last newline, in front of the first character behind the object that is no blank, or in
front of the end of the text. -/
theorem unclosed_place_iff {raw : String} {error : CompileError} :
    compile raw = .error error ∧ error.cause = .unclosed ↔
      ∃ place object blanks rest passed,
        FirstUnclosed raw.toList place object blanks rest ∧ raw.toList = passed ++ rest ∧
        error = ⟨raw, ⟨passed.count '\n' + 1, (passed.rtakeWhile (· != '\n')).length + 1⟩,
          .unclosed⟩ := by
  constructor
  · rintro ⟨rejected, cause⟩
    obtain ⟨place, ⟨cause, rest⟩, found, rfl⟩ := compile_eq_error_iff.mp rejected
    cases cause
    obtain ⟨object, blanks, unclosed⟩ := firstFault_unclosed_iff.mp found
    obtain ⟨passed, split⟩ := found.suffix
    refine ⟨place, object, blanks, rest, passed, unclosed, split.symm, ?_⟩
    rw [← Position.after_eq, ← Position.ofRest_append passed rest, split]
  · rintro ⟨place, object, blanks, rest, passed, unclosed, split, rfl⟩
    have found := firstFault_unclosed_iff.mpr ⟨object, blanks, unclosed⟩
    refine ⟨compile_eq_error_iff.mpr ⟨place, _, found, ?_⟩, rfl⟩
    rw [← Position.after_eq, ← Position.ofRest_append passed rest, split]

/-- Letters of two bytes and a newline in front of the settings, in them and behind them. -/
example : compile "ä\n\x7b\x7bn, number, \x7b\"é\":\n1\x7d é\x7d\x7d" =
    .error ⟨"ä\n\x7b\x7bn, number, \x7b\"é\":\n1\x7d é\x7d\x7d", ⟨3, 4⟩, .unclosed⟩ := by
  cbv

end Phrase

end Phrasebook
