import Phrasebook.Text.Distance
import Mathlib

/-!
# Edits

The distance of two texts is the least number of edits that lead from one to the other, where an
edit inserts, deletes or replaces one character at any place (`isLeast_distance`). Both directions
rest on the recurrence for texts that are not empty (`distance_cons_cons`). Read as instructions it
gives so many edits. That fewer never do follows from what a single edit does to the distance to a
text, whichever it is: it takes at most one from it (`Edit.distance_le`).
-/

namespace Phrasebook.Text

/-! ## The recurrence -/

theorem distances_nil_right (text : List Char) : distances text [] = [text.length] := by
  induction text with
  | nil => rfl
  | cons c text ih =>
      rw [distances, ih]
      rfl

/-- The distances to the endings of a text begin with the distance to all of it, and go on with
those to the endings of the text without its first character. -/
theorem distances_cons_right (text : List Char) (d : Char) (other : List Char) :
    distances text (d :: other) = distance text (d :: other) :: distances text other := by
  induction text with
  | nil =>
      simp only [distance, distances, List.length_cons, List.range_succ, List.reverse_append,
        List.reverse_cons, List.reverse_nil, List.nil_append, List.cons_append, List.headD_cons]
  | cons c text ih =>
      unfold distance
      rw [distances, ih]
      rfl

theorem distance_nil_left (other : List Char) : distance [] other = other.length := by
  simp [distance, distances, List.range_succ]

theorem distance_nil_right (text : List Char) : distance text [] = text.length := by
  rw [distance, distances_nil_right, List.headD_cons]

/-- A first character is deleted, or inserted, or kept, or replaced. -/
theorem distance_cons_cons (c d : Char) (text other : List Char) :
    distance (c :: text) (d :: other) =
      min (min (distance text (d :: other) + 1) (distance (c :: text) other + 1))
        (distance text other + if c = d then 0 else 1) := by
  have table := distances_cons_right (c :: text) d other
  rw [distances, distances_cons_right text d other, extendDistances] at table
  exact (List.cons.inj table).1.symm

theorem distance_self (text : List Char) : distance text text = 0 := by
  induction text with
  | nil => rfl
  | cons c text ih =>
      rw [distance_cons_cons, ih, if_pos rfl]
      exact Nat.min_zero _

/-! ## Edits -/

/-- One character of a text is inserted, deleted or replaced. -/
inductive Edit : List Char → List Char → Prop
  | insert (c : Char) (text : List Char) : Edit text (c :: text)
  | delete (c : Char) (text : List Char) : Edit (c :: text) text
  | replace (c d : Char) (text : List Char) : Edit (c :: text) (d :: text)
  -- At a later place, with everything in front of it kept.
  | behind (c : Char) {text other : List Char} : Edit text other → Edit (c :: text) (c :: other)

/-- A number of edits, one after the other, lead from a text to another. -/
inductive Edits : ℕ → List Char → List Char → Prop
  | none (text : List Char) : Edits 0 text text
  | more {n : ℕ} {text next other : List Char} : Edit text next → Edits n next other →
      Edits (n + 1) text other

variable {n : ℕ} {text other : List Char}

theorem Edits.behind (c : Char) (edits : Edits n text other) :
    Edits n (c :: text) (c :: other) := by
  induction edits with
  | none text => exact .none (c :: text)
  | more edit _ ih => exact .more (.behind c edit) ih

theorem Edits.min {m : ℕ} (first : Edits m text other) (second : Edits n text other) :
    Edits (Min.min m n) text other := by
  rcases min_choice m n with same | same
  · rwa [same]
  · rwa [same]

theorem edits_to_nil (text : List Char) : Edits text.length text [] := by
  induction text with
  | nil => exact .none []
  | cons c text ih => exact .more (.delete c text) ih

theorem edits_from_nil (other : List Char) : Edits other.length [] other := by
  induction other with
  | nil => exact .none []
  | cons d other ih => exact .more (.insert d []) (ih.behind d)

/-- There are as many edits from a text to another as their distance. -/
theorem edits_distance (text other : List Char) : Edits (distance text other) text other := by
  induction text generalizing other with
  | nil =>
      rw [distance_nil_left]
      exact edits_from_nil other
  | cons c text ih =>
      induction other with
      | nil =>
          rw [distance_nil_right]
          exact edits_to_nil (c :: text)
      | cons d other ihOther =>
          have deleted : Edits (distance text (d :: other) + 1) (c :: text) (d :: other) :=
            .more (.delete c text) (ih (d :: other))
          have inserted : Edits (distance (c :: text) other + 1) (c :: text) (d :: other) :=
            .more (.insert d (c :: text)) (ihOther.behind d)
          have kept : Edits (distance text other + if c = d then 0 else 1)
              (c :: text) (d :: other) := by
            by_cases same : c = d
            · rw [if_pos same, same]
              exact (ih other).behind d
            · rw [if_neg same]
              exact .more (.replace c d text) ((ih other).behind d)
          rw [distance_cons_cons]
          exact (deleted.min inserted).min kept

/-! ## What one edit does to a distance -/

theorem distance_cons_left_le (c : Char) (text other : List Char) :
    distance (c :: text) other ≤ distance text other + 1 := by
  cases other with
  | nil => rw [distance_nil_right, distance_nil_right, List.length_cons]
  | cons d other =>
      rw [distance_cons_cons]
      omega

theorem distance_cons_right_le (text : List Char) (d : Char) (other : List Char) :
    distance text (d :: other) ≤ distance text other + 1 := by
  cases text with
  | nil => rw [distance_nil_left, distance_nil_left, List.length_cons]
  | cons c text =>
      rw [distance_cons_cons]
      omega

theorem distance_le_cons_left (c : Char) (text other : List Char) :
    distance text other ≤ distance (c :: text) other + 1 := by
  induction other with
  | nil =>
      rw [distance_nil_right, distance_nil_right, List.length_cons]
      omega
  | cons d other ih =>
      have longer := distance_cons_right_le text d other
      rw [distance_cons_cons]
      omega

theorem distance_replace_le (c d : Char) (text other : List Char) :
    distance (c :: text) other ≤ distance (d :: text) other + 1 := by
  induction other with
  | nil =>
      rw [distance_nil_right, distance_nil_right, List.length_cons, List.length_cons]
      omega
  | cons e other ih =>
      rw [distance_cons_cons, distance_cons_cons]
      split_ifs <;> omega

/-- An edit takes at most one from the distance to a text. -/
theorem Edit.distance_le (edit : Edit text other) (target : List Char) :
    distance text target ≤ distance other target + 1 := by
  induction edit generalizing target with
  | insert c text => exact distance_le_cons_left c text target
  | delete c text => exact distance_cons_left_le c text target
  | replace c d text => exact distance_replace_le c d text target
  | @behind c text other _ ih =>
      induction target with
      | nil =>
          have shorter := ih []
          rw [distance_nil_right, distance_nil_right] at shorter ⊢
          exact Nat.succ_le_succ shorter
      | cons d target ihTarget =>
          have whole := ih (d :: target)
          have rest := ih target
          rw [distance_cons_cons, distance_cons_cons]
          omega

/-- No fewer edits than the distance lead from a text to another. -/
theorem Edits.distance_le (edits : Edits n text other) : distance text other ≤ n := by
  induction edits with
  | none text => exact (distance_self text).le
  | @more n text next other edit _ ih =>
      calc
        distance text other ≤ distance next other + 1 := edit.distance_le other
        _ ≤ n + 1 := Nat.succ_le_succ ih

/-- The distance of two texts is the least number of edits that lead from one to the other. -/
theorem isLeast_distance (text other : List Char) :
    IsLeast {n | Edits n text other} (distance text other) :=
  ⟨edits_distance text other, fun _ edits => edits.distance_le⟩

end Phrasebook.Text
