import Phrasebook.Proofs.Template.FaultPlace
import Phrasebook.Proofs.Text.Offset
import Mathlib

/-!
# Positions never leave the text

Whatever line and column a position has, it stands for a byte offset of the text at which no
character is cut, and the position of a place leads back to its offset. So the place of a fault
can be found from whatever the reader of settings reports: it lies in the clause of settings, from
its brace on, and its position is not beyond the end of the phrase (`conversions_stay_in_text`).
-/

namespace Phrasebook

/-- A place in the clause that ends a phrase, where `rest` is what is left of the phrase, has a
position between those of the clause and of the end. -/
structure InClause (front clause rest : String) (position : Position) : Prop where
  -- The position is counted without a character being cut.
  counted : Position.ofRest? (front ++ clause) rest = some position
  fromClause : (Position.after front.toList).UpTo position
  toEnd : position.UpTo (.after (front ++ clause).toList)
  -- It leads back to the place, which is between the clause and the end in bytes as well.
  found : ∃ offset, Text.offset? (front ++ clause) position = some offset ∧
    front.utf8ByteSize ≤ offset ∧ offset + rest.utf8ByteSize = (front ++ clause).utf8ByteSize

/-- Every ending of the clause begins at such a place. -/
theorem InClause.of_suffix (front : String) {clause rest : String}
    (ends : rest.toList <:+ clause.toList) :
    InClause front clause rest (.ofRest (front ++ clause).toList rest.toList) := by
  obtain ⟨inner, split⟩ := ends
  have whole : (front.toList ++ inner) ++ rest.toList = (front ++ clause).toList := by
    rw [String.toList_append, List.append_assoc, split]
  have position : Position.ofRest (front ++ clause).toList rest.toList =
      .after (front.toList ++ inner) := by
    rw [← whole, Position.ofRest_append]
  rw [position]
  refine ⟨Position.ofRest?_eq whole, Position.upTo_after _ _, ?_, _, Text.offset?_after whole,
    ?_, ?_⟩
  · rw [← whole]
    exact Position.upTo_after _ _
  · rw [Text.byteLength_append, Text.byteLength_toList]
    exact Nat.le_add_right _ _
  · rw [← Text.byteLength_toList rest]
    exact Text.byteLength_of_split whole

/-- Whatever is reported for a clause, a place in it is found. -/
theorem InClause.of_reported (front clause : String) (reported : Json.Error) :
    let rest := Text.seek clause.toList reported.position
    InClause front clause (.ofList rest) (.ofRest (front ++ clause).toList rest) := by
  intro rest
  have ends : (String.ofList rest).toList <:+ clause.toList := by
    rw [String.toList_ofList]
    exact Text.seek_suffix _ _
  have inside := InClause.of_suffix front ends
  rwa [String.toList_ofList] at inside

namespace Phrase

open Template

/-- A text is rejected at a place in the clause that its first fault is in, and for settings that
cannot be read at the place that is found from what the reader reports. -/
theorem rejected_inClause {raw : String} {error : CompileError}
    (rejected : compile raw = .error error) :
    ∃ place front clause rest, FirstFault raw.toList place ⟨error.cause, rest.toList⟩ ∧
      SettingsAt place clause.toList ∧ raw = front ++ clause ∧
      InClause front clause rest error.position ∧
      ∀ reported, error.cause = .malformedSettings reported →
        (∃ fault, Json.readFirst clause.toList = .error fault ∧
          reported = fault.toError clause.toList) ∧
        rest = .ofList (Text.seek clause.toList reported.position) := by
  obtain ⟨place, ⟨cause, rest⟩, found, rfl⟩ := compile_eq_error_iff.mp rejected
  obtain ⟨clause, begins, wrong⟩ := found.wrong
  obtain ⟨front, split⟩ := begins.suffix.trans found.reached.suffix
  have whole := Text.eq_append_of_split split
  have ends : (String.ofList rest).toList <:+ (String.ofList clause).toList := by
    rw [String.toList_ofList, String.toList_ofList]
    exact wrong.suffix
  have inside := InClause.of_suffix (.ofList front) ends
  rw [← whole, String.toList_ofList] at inside
  refine ⟨place, .ofList front, .ofList clause, .ofList rest, ?_, ?_, whole, inside, ?_⟩
  · rwa [String.toList_ofList]
  · rwa [String.toList_ofList]
  · intro reported malformed
    rw [String.toList_ofList]
    cases wrong with
    | malformed absent fails =>
        cases malformed
        exact ⟨⟨_, fails, rfl⟩, rfl⟩
    | unclosed => cases malformed

end Phrase

namespace Text

/-- The offset of a position is one of the text, and the place that is found is behind it. -/
theorem offset?_inside (text : String) (position : Position) :
    ∃ offset, offset? text position = some offset ∧ offset ≤ text.utf8ByteSize ∧
      String.Pos.Raw.IsValid text ⟨offset⟩ ∧
      sliceFrom? text offset = some (.ofList (seek text.toList position)) := by
  obtain ⟨passed, split⟩ := seek_suffix text.toList position
  obtain ⟨place, offset, -⟩ := exists_pos_of_split split
  have valid : String.Pos.Raw.IsValid text ⟨byteLength passed⟩ := offset ▸ place.isValid
  exact ⟨byteLength passed, offset?_eq split, valid.le_utf8ByteSize, valid,
    sliceFrom?_of_split split⟩

/-- The position of a place can be counted, and it leads back to the offset of the place. -/
theorem offset?_ofRest (text : String) (place : text.Pos) :
    let rest := (text.sliceFrom place).copy
    Position.ofRest? text rest = some (.ofRest text.toList rest.toList) ∧
      offset? text (.ofRest text.toList rest.toList) = some place.offset.byteIdx := by
  intro rest
  have splits := place.splits
  have split : (text.sliceTo place).copy.toList ++ rest.toList = text.toList := by
    rw [← String.toList_append, ← splits.eq_append]
  have bytes : place.offset.byteIdx = byteLength (text.sliceTo place).copy.toList := by
    rw [byteLength_toList, splits.offset_eq_rawEndPos, String.rawEndPos]
  have position : Position.ofRest text.toList rest.toList =
      .after (text.sliceTo place).copy.toList := by
    rw [← split, Position.ofRest_append]
  rw [position, bytes]
  exact ⟨Position.ofRest?_eq split, offset?_after split⟩

end Text

namespace Position

open Template

/-- **Conversions stay in the text.** The offset of any line and column is an offset of the text at
which a character begins or the text ends. So whatever error is reported for a clause, its place
and its position can be found, and they lie between the clause and the end of the phrase. That is
where a text is rejected: in the clause that its first fault is in, and at the place that is found
there from what the reader has reported. The position of every place of a text leads back to its
offset. -/
theorem conversions_stay_in_text :
    (∀ (text : String) (position : Position), ∃ offset,
      Text.offset? text position = some offset ∧ offset ≤ text.utf8ByteSize ∧
      String.Pos.Raw.IsValid text ⟨offset⟩ ∧
      Text.sliceFrom? text offset = some (.ofList (Text.seek text.toList position))) ∧
    (∀ (front clause : String) (reported : Json.Error),
      let rest := Text.seek clause.toList reported.position
      InClause front clause (.ofList rest) (.ofRest (front ++ clause).toList rest)) ∧
    (∀ raw error, Phrase.compile raw = .error error →
      ∃ place front clause rest, FirstFault raw.toList place ⟨error.cause, rest.toList⟩ ∧
        SettingsAt place clause.toList ∧ raw = front ++ clause ∧
        InClause front clause rest error.position ∧
        ∀ reported, error.cause = .malformedSettings reported →
          (∃ fault, Json.readFirst clause.toList = .error fault ∧
            reported = fault.toError clause.toList) ∧
          rest = .ofList (Text.seek clause.toList reported.position)) ∧
    ∀ (text : String) (place : text.Pos),
      let rest := (text.sliceFrom place).copy
      ofRest? text rest = some (ofRest text.toList rest.toList) ∧
      Text.offset? text (ofRest text.toList rest.toList) = some place.offset.byteIdx :=
  ⟨Text.offset?_inside, InClause.of_reported, fun _ _ => Phrase.rejected_inClause,
    Text.offset?_ofRest⟩

/-- Behind letters of two bytes the column counts beyond the end of its line, and the place is in
the line below. -/
theorem conversions_stay_in_text_line_below :
    let raw := "ä\n\x7b\x7bn, number, \x7b\"éé\":x\n\x7d\x7d\x7d"
    let reported : Json.Error := ⟨.expectedValue, ⟨1, 9⟩⟩
    Phrase.compile raw = .error ⟨raw, ⟨3, 1⟩, .malformedSettings reported⟩ ∧
      ∃ place front clause rest,
        FirstFault raw.toList place ⟨.malformedSettings reported, rest.toList⟩ ∧
        SettingsAt place clause.toList ∧ raw = front ++ clause ∧
        InClause front clause rest ⟨3, 1⟩ ∧
        rest = .ofList (Text.seek clause.toList ⟨1, 9⟩) := by
  intro raw reported
  have rejected : Phrase.compile raw = .error ⟨raw, ⟨3, 1⟩, .malformedSettings reported⟩ := by cbv
  obtain ⟨place, front, clause, rest, found, begins, whole, inside, left⟩ :=
    conversions_stay_in_text.2.2.1 raw _ rejected
  exact ⟨rejected, place, front, clause, rest, found, begins, whole, inside, (left reported rfl).2⟩

end Position

end Phrasebook
