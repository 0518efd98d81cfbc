import Phrasebook.Proofs.Template.FaultPlace
import Phrasebook.Report.Diagnostic
import Mathlib

/-!
# The mark of a diagnostic

A diagnostic marks a byte of the phrase, and a fault has a line and a column in characters. The
mark lies as many bytes behind the beginning of the line as there are characters in front of the
fault in it (`markOffset_ofRest`), so it falls short of the fault by the bytes that these
characters have beyond their first. It is at the fault iff they are ASCII; at the end of the
phrase, where the mark is drawn back to the last byte, one further byte makes no difference
(`mark_of_fault`).
-/

namespace Phrasebook

namespace Text

/-- The lines above a place and what is in front of it in its line make up all that is passed. -/
theorem byteLength_lines (passed : List Char) :
    byteLength passed =
      byteLength (passed.rdropWhile (· != '\n')) + byteLength (passed.rtakeWhile (· != '\n')) := by
  rw [← byteLength_append, List.rdropWhile_append_rtakeWhile]

/-- The mark of a place: the bytes of the lines above and one for each character in front of the
place in its line, drawn back to the last byte of the text. -/
theorem markOffset_ofRest (passed rest : List Char) :
    markOffset (passed ++ rest) (.ofRest (passed ++ rest) rest) =
      min (byteLength (passed.rdropWhile (· != '\n')) +
          (passed.rtakeWhile (· != '\n')).length)
        (byteLength (passed ++ rest) - 1) := by
  rw [Position.ofRest_append, Position.after_eq]
  show min (byteLength (passed ++ rest) -
      byteLength (dropLines (passed.count '\n') (passed ++ rest)) + _) _ = _
  rw [dropLines_count, byteLength_append, byteLength_append, byteLength_lines passed]
  congr 1
  simp only [Nat.add_sub_cancel]
  omega

/-- A character has one byte at least, so the mark is never behind its place. -/
theorem markOffset_le (passed rest : List Char) :
    markOffset (passed ++ rest) (.ofRest (passed ++ rest) rest) ≤ byteLength passed := by
  have short := length_le_byteLength (passed.rtakeWhile (· != '\n'))
  have lines := byteLength_lines passed
  rw [markOffset_ofRest]
  omega

/-- In front of the end of a text, the mark of a place is at the place iff all characters in front
of it in its line are ASCII. -/
theorem markOffset_eq_iff {passed rest : List Char} (inside : rest ≠ []) :
    markOffset (passed ++ rest) (.ofRest (passed ++ rest) rest) = byteLength passed ↔
      ∀ c ∈ passed.rtakeWhile (· != '\n'), c.utf8Size = 1 := by
  have short := length_le_byteLength (passed.rtakeWhile (· != '\n'))
  have lines := byteLength_lines passed
  have left : 0 < byteLength rest :=
    Nat.lt_of_lt_of_le (List.length_pos_of_ne_nil inside) (length_le_byteLength rest)
  rw [markOffset_ofRest, byteLength_append]
  constructor
  · intro same
    refine ascii_of_byteLength_le ?_
    omega
  · intro ascii
    have bytes := byteLength_of_ascii ascii
    omega

/-- At the end of a text the mark is at the last byte iff the last line has no more than one byte
beyond its characters. -/
theorem markOffset_end_iff (text : List Char) :
    markOffset text (.ofRest text []) = byteLength text - 1 ↔
      byteLength (text.rtakeWhile (· != '\n')) ≤ (text.rtakeWhile (· != '\n')).length + 1 := by
  have short := length_le_byteLength (text.rtakeWhile (· != '\n'))
  have lines := byteLength_lines text
  have mark := markOffset_ofRest text []
  rw [List.append_nil] at mark
  rw [mark]
  omega

end Text

namespace Phrase

open Template

/-- **The mark of a fault.** A place in front of the end of a text is marked at the first byte of its
character iff all that is in front of it in its line is ASCII. The diagnostic of a phrase that does
not compile marks the place of the fault: as many bytes behind the beginning of its line as there
are characters in front of it there, and never behind it. A fault at the end of the phrase is
marked at the last byte iff the line has at most one byte more than characters. -/
theorem mark_of_fault (raw : String) :
    (∀ passed rest, raw.toList = passed ++ rest → rest ≠ [] →
      (Text.markOffset raw.toList (.ofRest raw.toList rest) = Text.byteLength passed ↔
        ∀ c ∈ passed.rtakeWhile (· != '\n'), c.utf8Size = 1)) ∧
    ∀ error path key, compile raw = .error error →
      ∃ passed rest, raw.toList = passed ++ rest ∧ error.position = .ofRest raw.toList rest ∧
        let above := passed.rdropWhile (· != '\n')
        let line := passed.rtakeWhile (· != '\n')
        let offset := (Diagnostic.ofCompileError path key error).offset
        offset = min (Text.byteLength above + line.length) (Text.byteLength raw.toList - 1) ∧
        offset ≤ Text.byteLength passed ∧
        (rest ≠ [] → (offset = Text.byteLength passed ↔ ∀ c ∈ line, c.utf8Size = 1)) ∧
        (rest = [] → (offset = Text.byteLength raw.toList - 1 ↔
          Text.byteLength line ≤ line.length + 1)) := by
  constructor
  · intro passed rest split inside
    rw [split]
    exact Text.markOffset_eq_iff inside
  · intro error path key rejected
    obtain ⟨place, fault, found, rfl⟩ := compile_eq_error_iff.mp rejected
    obtain ⟨passed, split⟩ := found.suffix
    refine ⟨passed, fault.rest, split.symm, rfl, ?_⟩
    intro above line offset
    have mark : offset = Text.markOffset raw.toList (.ofRest raw.toList fault.rest) := rfl
    rw [mark, ← split]
    refine ⟨Text.markOffset_ofRest passed fault.rest, Text.markOffset_le passed fault.rest,
      fun inside => Text.markOffset_eq_iff inside, ?_⟩
    intro ends
    rw [ends, List.append_nil]
    exact Text.markOffset_end_iff passed

/-- Letters of two bytes in the lines above make no difference. -/
theorem mark_of_fault_second_line :
    let raw := "é\n\x7b\x7bn, number, \x7bx\x7d\x7d\x7d"
    let error : CompileError := ⟨raw, ⟨2, 15⟩, .malformedSettings ⟨.nameNotString, ⟨1, 2⟩⟩⟩
    compile raw = .error error ∧ Text.byteLength (raw.toList.take 16) = 17 ∧
      (Diagnostic.ofCompileError "en.json" "a" error).offset = 17 := by
  intro raw error
  have rejected : compile raw = .error error := by cbv
  have bytes : Text.byteLength (raw.toList.take 16) = 17 := by decide +kernel
  obtain ⟨passed, rest, split, place, -, -, inside, -⟩ :=
    (mark_of_fault raw).2 error "en.json" "a" rejected
  have same : Position.ofRest raw.toList rest = .ofRest raw.toList (raw.toList.drop 16) :=
    place.symm.trans (by decide +kernel)
  have behind := (Position.ofRest_inj ⟨passed, split.symm⟩ (List.drop_suffix 16 _)).mp same
  have front : passed = raw.toList.take 16 := by
    have whole := split.symm.trans (List.take_append_drop 16 raw.toList).symm
    rw [behind] at whole
    exact List.append_cancel_right whole
  have ascii : ((raw.toList.take 16).rtakeWhile (· != '\n')).all (·.utf8Size = 1) := by
    decide +kernel
  rw [front, behind, bytes] at inside
  refine ⟨rejected, bytes, (inside (by decide +kernel)).mpr ?_⟩
  intro c member
  exact of_decide_eq_true (List.all_eq_true.mp ascii c member)

/-- Behind a letter of two bytes in its line the fault is at the sixteenth byte, and the mark at the
byte in front of it, which is the brace. -/
theorem mark_of_fault_behind_accent :
    let front := "é\x7b\x7bn, number, \x7b"
    let raw := front ++ "x\x7d\x7d\x7d"
    let error : CompileError := ⟨raw, ⟨1, 16⟩, .malformedSettings ⟨.nameNotString, ⟨1, 2⟩⟩⟩
    compile raw = .error error ∧
      Position.ofRest raw.toList "x\x7d\x7d\x7d".toList = ⟨1, 16⟩ ∧
      Text.byteLength front.toList = 16 ∧
      (Diagnostic.ofCompileError "en.json" "a" error).offset = 15 := by
  intro front raw error
  exact ⟨by cbv, by decide +kernel, by decide +kernel, by decide +kernel⟩

end Phrase

end Phrasebook
