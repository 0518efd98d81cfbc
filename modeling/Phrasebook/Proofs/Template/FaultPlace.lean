import Phrasebook.Proofs.Template.Compilation
import Phrasebook.Proofs.Text.Place
import Mathlib

/-!
# The place of malformed settings

A text with malformed settings is rejected at a place that is found from the line and the byte
column at which the reader of the clause fails. The column is taken for a number of characters:
the place lies that many characters behind the beginning of the line (`malformed_settings_place`).
So it is the character with the byte that the reader means if all of the line in front of that
byte is ASCII, and another one behind it if not.
-/

namespace Phrasebook

namespace Template

/-- The clause of settings ends the text that it is in. -/
theorem SettingsAt.suffix {text clause : List Char} (begins : SettingsAt text clause) :
    clause <:+ text := by
  obtain ⟨opened, named, separated, brace⟩ := begins
  exact List.suffix_append _ _

/-- A fault lies in the clause that it is in. -/
theorem ClauseFault.suffix {clause : List Char} {fault : SlotFault}
    (wrong : ClauseFault clause fault) : fault.rest <:+ clause := by
  cases wrong with
  | malformed absent fails => exact Text.seek_suffix clause _
  | unclosed spelled split unclosed =>
      rw [split]
      exact (List.dropWhile_suffix isBlank).trans (List.suffix_append _ _)

theorem FirstFault.suffix {text place : List Char} {fault : SlotFault}
    (found : FirstFault text place fault) : fault.rest <:+ text := by
  obtain ⟨clause, begins, wrong⟩ := found.wrong
  exact (wrong.suffix.trans begins.suffix).trans found.reached.suffix

/-- The fault of settings that are no object, in a place that a scan reaches. -/
theorem FirstFault.malformed {text place rest : List Char} {error : Json.Error}
    (found : FirstFault text place ⟨.malformedSettings error, rest⟩) :
    ∃ clause fault, SettingsAt place clause ∧ Json.readFirst clause = .error fault ∧
      error = fault.toError clause ∧ rest = Text.seek clause error.position := by
  obtain ⟨clause, begins, wrong⟩ := found.wrong
  cases wrong with
  | malformed absent fails => exact ⟨clause, _, begins, fails, rfl, rfl⟩

end Template

namespace Phrase

open Template

/-- **Malformed settings.** A text that is rejected for its settings is so for those of the first
slot with a fault. The reader fails in their clause at a line and a byte column; the position of
the rejection is that of the character which is as many characters behind the beginning of that
line as the reader is bytes, or the end of the text. This is the character with the byte that the
reader has come to iff everything in front of it in the line is ASCII. -/
theorem malformed_settings_place {raw : String} {error : CompileError} {reported : Json.Error}
    (rejected : compile raw = .error error) (cause : error.cause = .malformedSettings reported) :
    ∃ place clause fault rest passed,
      FirstFault raw.toList place ⟨.malformedSettings reported, rest⟩ ∧
      SettingsAt place clause ∧ Json.readFirst clause = .error fault ∧
      reported = fault.toError clause ∧
      let line := Text.dropLines (reported.position.line - 1) clause
      let number := max reported.position.column 1
      rest = line.drop (number - 1) ∧ raw.toList = passed ++ rest ∧
      error.position =
        ⟨passed.count '\n' + 1, (passed.rtakeWhile (· != '\n')).length + 1⟩ ∧
      (error.position = .ofRest raw.toList (Text.fromByte line number) ↔
        ∀ c ∈ line.take (number - 1), c.utf8Size = 1) := by
  obtain ⟨place, ⟨cause, rest⟩, found, rfl⟩ := compile_eq_error_iff.mp rejected
  cases cause
  obtain ⟨clause, fault, begins, fails, same, left⟩ := found.malformed
  have count : max reported.position.column 1 - 1 = reported.position.column - 1 := by omega
  have rest_eq : rest = (Text.dropLines (reported.position.line - 1) clause).drop
      (max reported.position.column 1 - 1) := by
    rw [left, Text.seek, count]
  -- All of the places are ends of the text.
  have lineEnds : Text.dropLines (reported.position.line - 1) clause <:+ raw.toList :=
    ((Text.dropLines_suffix _ _).trans begins.suffix).trans found.reached.suffix
  have restEnds : rest <:+ raw.toList := by
    rw [rest_eq]
    exact (List.drop_suffix _ _).trans lineEnds
  obtain ⟨passed, split⟩ := restEnds
  refine ⟨place, clause, fault, rest, passed, found, begins, fails, same, rest_eq, split.symm,
    ?_, ?_⟩
  · rw [← Position.after_eq, ← Position.ofRest_append passed rest, split]
  · have byteEnds := (Text.fromByte_suffix _ (max reported.position.column 1)).trans lineEnds
    rw [Position.ofRest_inj ⟨passed, split⟩ byteEnds, rest_eq]
    -- The reader has come no further than to the end of the text.
    have reached : reported.position.column ≤
        Text.byteLength (Text.dropLines (reported.position.line - 1) clause) := by
      rw [same]
      exact fault.column_le clause
    exact Text.drop_eq_fromByte_iff (by omega) (by omega)

/-- Text in front of the line, ASCII or not, makes no difference. -/
theorem malformed_settings_place_third_line :
    let raw := "ä\n\x7b\x7bn, number, \x7b\"é\":\n\t[x\x7d\x7d\x7d"
    let reported : Json.Error := ⟨.expectedValue, ⟨2, 3⟩⟩
    compile raw = .error ⟨raw, ⟨3, 3⟩, .malformedSettings reported⟩ ∧
      ∃ place clause rest, FirstFault raw.toList place ⟨.malformedSettings reported, rest⟩ ∧
        SettingsAt place clause ∧ rest = (Text.dropLines 1 clause).drop 2 ∧
        (Position.ofRest raw.toList (Text.fromByte (Text.dropLines 1 clause) 3) = ⟨3, 3⟩ ↔
          ∀ c ∈ (Text.dropLines 1 clause).take 2, c.utf8Size = 1) := by
  intro raw reported
  have rejected : compile raw = .error ⟨raw, ⟨3, 3⟩, .malformedSettings reported⟩ := by cbv
  obtain ⟨place, clause, fault, rest, passed, found, begins, -, -, left, -, -, same⟩ :=
    malformed_settings_place rejected rfl
  exact ⟨rejected, place, clause, rest, found, begins, left, eq_comm.trans same⟩

/-- Behind a letter of two bytes the position is one character too far: the reader stops at the
eighth byte of the clause, which is its seventh character. -/
theorem malformed_settings_place_behind_accent :
    let clause := "\x7b\"é\": x\x7d\x7d\x7d"
    let raw := "\x7b\x7bn, number, " ++ clause
    compile raw =
        .error ⟨raw, ⟨1, 21⟩, .malformedSettings ⟨.expectedValue, ⟨1, 8⟩⟩⟩ ∧
      Position.ofRest raw.toList (Text.fromByte clause.toList 8) = ⟨1, 20⟩ := by
  intro clause raw
  exact ⟨by cbv, by decide +kernel⟩

end Phrase

end Phrasebook
