import Phrasebook.Proofs.Template.SlotReading
import Mathlib

/-!
# Scanning a text

A text is read from left to right: a slot is taken as a whole, a character that stands for itself
is taken alone, and a slot with a fault ends the reading. `scan_induction` makes this the way to
reason about every text, with one equation of `parts` for each case beside it. From them follow
the two laws of a scan:

* it succeeds with a row of parts iff that row spells the text (`parts_eq_ok_iff`);
* it fails iff it reaches a place with a fault, with the fault of the first such place
  (`parts_eq_error_iff`).
-/

namespace Phrasebook

theorem map_eq_ok_iff {ε α β : Type} {change : α → β} {outcome : Except ε α} {value : β} :
    outcome.map change = .ok value ↔ ∃ old, outcome = .ok old ∧ change old = value := by
  cases outcome <;> simp [Except.map]

theorem map_eq_error_iff {ε α β : Type} {change : α → β} {outcome : Except ε α} {error : ε} :
    outcome.map change = .error error ↔ outcome = .error error := by
  cases outcome <;> simp [Except.map]

namespace Template

/-! ## One step -/

/-- A slot is written with two braces at least in front. -/
theorem SlotText.braces {slot : Slot} {span : List Char} (spelled : SlotText slot span) :
    ∃ inner, span = '{' :: '{' :: inner := by
  obtain ⟨⟨blanks, name⟩, called, closed⟩ := spelled
  exact ⟨_, rfl⟩

/-- So is the beginning of a slot with settings. -/
theorem SettingsAt.braces {text clause : List Char} (begins : SettingsAt text clause) :
    ∃ inner, text = '{' :: '{' :: inner := by
  obtain ⟨⟨blanks, name⟩, named, separated, brace⟩ := begins
  exact ⟨_, rfl⟩

theorem Malformed.braces {text : List Char} {fault : SlotFault} (wrong : Malformed text fault) :
    ∃ inner, text = '{' :: '{' :: inner :=
  wrong.elim fun _ begins => begins.1.braces

theorem not_malformed_nil {fault : SlotFault} : ¬ Malformed [] fault := by
  intro wrong
  obtain ⟨inner, braces⟩ := wrong.braces
  cases braces

/-- Every place that is not the end of a text is of one of three kinds. -/
theorem literal_or_slot_or_malformed (text : List Char) :
    Literal text ∨ BeginsSlot text ∨ ∃ fault, Malformed text fault := by
  cases read : readSlot text with
  | error fault => exact .inr (.inr ⟨fault, readSlot_eq_error_iff.mp read⟩)
  | ok result =>
      cases result with
      | none => exact .inl (readSlot_eq_none_iff.mp read)
      | some found =>
          obtain ⟨span, spelled, split⟩ := readSlot_eq_some_iff.mp read
          exact .inr (.inl ⟨found.1, span, found.2, spelled, split⟩)

/-- Reasoning about a text along its scan. -/
@[elab_as_elim]
theorem scan_induction {motive : List Char → Prop} (nil : motive [])
    (literal : ∀ c rest, Literal (c :: rest) → motive rest → motive (c :: rest))
    (slot : ∀ slot span rest, SlotText slot span → motive rest → motive (span ++ rest))
    (malformed : ∀ text fault, Malformed text fault → motive text) (text : List Char) :
    motive text := by
  -- A slot is as long as it is written, so the induction is on the length of what is left.
  induction bound : text.length using Nat.strong_induction_on generalizing text with
  | _ bound ih =>
      rcases literal_or_slot_or_malformed text with
        stands | ⟨found, span, rest, spelled, rfl⟩ | ⟨fault, wrong⟩
      · cases text with
        | nil => exact nil
        | cons c rest =>
            exact literal c rest stands (ih rest.length (by simp [← bound]) rest rfl)
      · obtain ⟨inner, rfl⟩ := spelled.braces
        refine slot found _ rest spelled (ih rest.length ?_ rest rfl)
        simp only [List.cons_append, List.length_cons, List.length_append] at bound
        omega
      · exact malformed text fault wrong

/-- The parts of a text do not depend on the bound, as long as it is no less than the length. -/
theorem partsWithin_eq_parts {text : List Char} {bound : Nat} (enough : text.length ≤ bound) :
    partsWithin bound text = parts text := by
  -- The length that `parts` starts from does not shrink in step with the text behind a slot, so
  -- two bounds that are large enough are compared.
  suffices general : ∀ (other : Nat), text.length ≤ other →
      partsWithin bound text = partsWithin other text from general _ le_rfl
  induction bound generalizing text with
  | zero =>
      intro other _
      have empty : text = [] := List.eq_nil_of_length_eq_zero (Nat.le_zero.mp enough)
      subst empty
      cases other <;> rfl
  | succ bound ih =>
      intro other enoughToo
      cases text with
      | nil => cases other <;> rfl
      | cons c rest =>
          obtain ⟨other, rfl⟩ : ∃ less, other = less + 1 :=
            ⟨other - 1, by simp only [List.length_cons] at enoughToo; omega⟩
          simp only [List.length_cons, Nat.add_le_add_iff_right] at enough enoughToo
          simp only [partsWithin]
          cases read : readSlot (c :: rest) with
          | error fault => rfl
          | ok result =>
              cases result with
              | none => simp only [bind, Except.bind, ih enough other enoughToo]
              | some found =>
                  obtain ⟨slot, behind⟩ := found
                  obtain ⟨span, spelled, split⟩ := readSlot_eq_some_iff.mp read
                  obtain ⟨inner, rfl⟩ := spelled.braces
                  have shorter := congrArg List.length split
                  simp only [List.cons_append, List.length_cons, List.length_append] at shorter
                  simp only [bind, Except.bind]
                  rw [ih (show behind.length ≤ bound by omega) other (by omega)]

theorem parts_nil : parts [] = .ok [] := rfl

theorem parts_literal {c : Char} {rest : List Char} (stands : Literal (c :: rest)) :
    parts (c :: rest) = (parts rest).map (Part.literal c :: ·) := by
  have read := readSlot_eq_none_iff.mpr stands
  conv_lhs => unfold parts
  simp only [List.length_cons, partsWithin, read, bind, Except.bind]
  rw [partsWithin_eq_parts le_rfl]
  cases parts rest <;> rfl

theorem parts_slot {slot : Slot} {span : List Char} (spelled : SlotText slot span)
    (rest : List Char) : parts (span ++ rest) = (parts rest).map (Part.slot slot :: ·) := by
  have read := spelled.read rest
  obtain ⟨inner, rfl⟩ := spelled.braces
  conv_lhs => unfold parts
  simp only [List.cons_append, List.length_cons, partsWithin] at read ⊢
  simp only [read, bind, Except.bind]
  rw [partsWithin_eq_parts (by simp only [List.length_append]; omega)]
  cases parts rest <;> rfl

theorem parts_malformed {text : List Char} {fault : SlotFault} (wrong : Malformed text fault) :
    parts text = .error fault := by
  have read := readSlot_eq_error_iff.mpr wrong
  obtain ⟨inner, rfl⟩ := wrong.braces
  unfold parts
  simp only [List.length_cons, partsWithin, read, bind, Except.bind]

/-! ## Success -/

/-- A row of parts spells a text: characters that stand for themselves and written slots. -/
inductive Spells : List Part → List Char → Prop
  | nil : Spells [] []
  | literal {c : Char} {rest : List Char} {row : List Part} : Literal (c :: rest) →
      Spells row rest → Spells (.literal c :: row) (c :: rest)
  | slot {slot : Slot} {span rest : List Char} {row : List Part} : SlotText slot span →
      Spells row rest → Spells (.slot slot :: row) (span ++ rest)

/-- A scan succeeds with the row of parts that spells the text. -/
theorem parts_eq_ok_iff {text : List Char} {row : List Part} :
    parts text = .ok row ↔ Spells row text := by
  constructor
  · intro success
    induction text using scan_induction generalizing row with
    | nil =>
        rw [parts_nil] at success
        cases success
        exact .nil
    | literal c rest stands ih =>
        rw [parts_literal stands] at success
        obtain ⟨others, scanned, rfl⟩ := map_eq_ok_iff.mp success
        exact .literal stands (ih scanned)
    | slot slot span rest spelled ih =>
        rw [parts_slot spelled] at success
        obtain ⟨others, scanned, rfl⟩ := map_eq_ok_iff.mp success
        exact .slot spelled (ih scanned)
    | malformed text fault wrong =>
        rw [parts_malformed wrong] at success
        cases success
  · intro spelled
    induction spelled with
    | nil => exact parts_nil
    | literal stands _ ih => rw [parts_literal stands, ih]; rfl
    | slot written _ ih => rw [parts_slot written, ih]; rfl

/-! ## Failure -/

/-- A place that a scan of the text comes to: it takes every slot as a whole and goes on behind
any other character. -/
inductive Reached : List Char → List Char → Prop
  | here {text : List Char} : Reached text text
  | pass {c : Char} {rest place : List Char} : ¬ BeginsSlot (c :: rest) → Reached rest place →
      Reached (c :: rest) place
  | skip {slot : Slot} {span rest place : List Char} : SlotText slot span →
      Reached rest place → Reached (span ++ rest) place

/-- A place with a fault, and no place with a fault is reached before it. -/
structure FirstFault (text place : List Char) (fault : SlotFault) : Prop where
  reached : Reached text place
  wrong : Malformed place fault
  first : ∀ other otherFault, Reached text other → Malformed other otherFault →
    other.length ≤ place.length

theorem Reached.suffix {text place : List Char} (reached : Reached text place) :
    place <:+ text := by
  induction reached with
  | here => exact List.suffix_rfl
  | pass _ _ ih => exact ih.trans (List.suffix_cons _ _)
  | skip _ _ ih => exact ih.trans (List.suffix_append _ _)

/-- Behind a character that stands for itself the scan reaches what it reaches from there. -/
theorem reached_literal_iff {c : Char} {rest place : List Char} (stands : Literal (c :: rest)) :
    Reached (c :: rest) place ↔ place = c :: rest ∨ Reached rest place := by
  constructor
  · intro reached
    generalize same : c :: rest = text at reached
    cases reached with
    | here => exact .inl rfl
    | pass _ further =>
        cases same
        exact .inr further
    | skip spelled _ => exact absurd ⟨_, _, _, spelled, same⟩ stands.noSlot
  · rintro (rfl | further)
    · exact .here
    · exact .pass stands.noSlot further

theorem reached_slot_iff {slot : Slot} {span rest place : List Char}
    (spelled : SlotText slot span) :
    Reached (span ++ rest) place ↔ place = span ++ rest ∨ Reached rest place := by
  constructor
  · intro reached
    generalize same : span ++ rest = text at reached
    cases reached with
    | here => exact .inl rfl
    | pass absent _ => exact absurd ⟨_, _, _, spelled, same.symm⟩ absent
    | skip other further =>
        obtain ⟨-, -, rfl⟩ := spelled.unique other same
        exact .inr further
  · rintro (rfl | further)
    · exact .here
    · exact .skip spelled further

/-- The first fault behind a part without fault is the first one of the text. -/
theorem FirstFault.behind {text rest place : List Char} {fault : SlotFault}
    (next : ∀ other, Reached text other ↔ other = text ∨ Reached rest other)
    (right : ∀ other, ¬ Malformed text other) (found : FirstFault rest place fault) :
    FirstFault text place fault := by
  refine ⟨(next place).mpr (.inr found.reached), found.wrong, ?_⟩
  intro other otherFault reached otherWrong
  rcases (next other).mp reached with rfl | further
  · exact absurd otherWrong (right otherFault)
  · exact found.first other otherFault further otherWrong

theorem Literal.not_malformed {text : List Char} (stands : Literal text) (fault : SlotFault) :
    ¬ Malformed text fault :=
  fun ⟨clause, begins, _⟩ => stands.noSettings ⟨clause, begins⟩

theorem SlotText.not_malformed {slot : Slot} {span : List Char} (spelled : SlotText slot span)
    (rest : List Char) (fault : SlotFault) : ¬ Malformed (span ++ rest) fault :=
  fun wrong => wrong.not_beginsSlot ⟨slot, span, rest, spelled, rfl⟩

/-- A text that is spelled by parts is scanned without reaching a fault. -/
theorem Spells.not_malformed {row : List Part} {text place : List Char} {fault : SlotFault}
    (spelled : Spells row text) (reached : Reached text place) : ¬ Malformed place fault := by
  induction spelled with
  | nil =>
      have empty := List.suffix_nil.mp reached.suffix
      subst empty
      exact not_malformed_nil
  | literal stands _ ih =>
      rcases (reached_literal_iff stands).mp reached with rfl | further
      · exact stands.not_malformed fault
      · exact ih further
  | slot written _ ih =>
      rcases (reached_slot_iff written).mp reached with rfl | further
      · exact written.not_malformed _ fault
      · exact ih further

theorem firstFault_of_parts {text : List Char} {fault : SlotFault}
    (failure : parts text = .error fault) : ∃ place, FirstFault text place fault := by
  induction text using scan_induction with
  | nil => cases failure
  | literal c rest stands ih =>
      rw [parts_literal stands] at failure
      obtain ⟨place, found⟩ := ih (map_eq_error_iff.mp failure)
      exact ⟨place, found.behind (fun _ => reached_literal_iff stands) stands.not_malformed⟩
  | slot slot span rest spelled ih =>
      rw [parts_slot spelled] at failure
      obtain ⟨place, found⟩ := ih (map_eq_error_iff.mp failure)
      exact ⟨place, found.behind (fun _ => reached_slot_iff spelled)
        (spelled.not_malformed rest)⟩
  | malformed text other wrong =>
      rw [parts_malformed wrong] at failure
      cases failure
      exact ⟨text, .here, wrong, fun other _ reached _ => reached.suffix.length_le⟩

theorem FirstFault.unique {text place otherPlace : List Char} {fault other : SlotFault}
    (found : FirstFault text place fault) (otherFound : FirstFault text otherPlace other) :
    place = otherPlace ∧ fault = other := by
  have same : place = otherPlace := by
    have notLonger := otherFound.first place fault found.reached found.wrong
    have notShorter := found.first otherPlace other otherFound.reached otherFound.wrong
    -- Both are ends of the text, and neither is longer than the other.
    have within := List.suffix_of_suffix_length_le found.reached.suffix
      otherFound.reached.suffix notLonger
    exact within.eq_of_length_le notShorter
  subst same
  exact ⟨rfl, found.wrong.unique otherFound.wrong⟩

/-- A scan fails with the fault of the first place with a fault that it reaches. -/
theorem parts_eq_error_iff {text : List Char} {fault : SlotFault} :
    parts text = .error fault ↔ ∃ place, FirstFault text place fault := by
  constructor
  · exact firstFault_of_parts
  · rintro ⟨place, found⟩
    cases scanned : parts text with
    | ok row =>
        exact absurd found.wrong ((parts_eq_ok_iff.mp scanned).not_malformed found.reached)
    | error other =>
        obtain ⟨otherPlace, otherFound⟩ := firstFault_of_parts scanned
        rw [(found.unique otherFound).2]

end Template

end Phrasebook
