import Phrasebook.Proofs.Double.Shortest
import Phrasebook.Proofs.Formatter.WholeNumbers

/-!
# Host numbers

What it means that a value carries a whole number: it shows its digits, counts as one if it is one,
stands for the nearest double, and is written with the number's sign (`Value.Carries`). A signed
64-bit value carries its number (`carries_number`), and so the narrower kinds do. An unsigned
64-bit number keeps its bits when it is bound, so from `2 ^ 63` on the value carries the number less
`2 ^ 64` (`toInt_toInt64`), while a document with the same number becomes a double with its sign
(`host_numbers`).
-/

namespace Phrasebook

open Double

namespace Value

/-- A value carries a whole number. -/
structure Carries (v : Value) (n : ℤ) : Prop where
  plainText_eq : v.plainText = String.ofList (signText (decide (n < 0)) ++ Nat.toDigits 10 n.natAbs)
  isOne_iff : v.isOne = true ↔ n = 1
  nearest : ∃ rank, v.numeric? = some (.finite (decide (n < 0)) rank) ∧ Nearest n.natAbs rank
  -- The formatter `number` writes the number as the double nearest to it, with its sign.
  written : ∃ shown, RoundsToWhole n.natAbs shown ∧ ∀ settings context,
    (NumberStyle.ofSettings settings).WritesWhole (decide (n < 0)) shown
      (Formatter.number v settings context)

theorem carries_number (n : Int64) : (Value.number n).Carries n.toInt where
  plainText_eq := by
    rw [plainText, plainChars]
    rfl
  isOne_iff := by
    rw [isOne, beq_iff_eq, ← Int64.toInt_inj, Int64.toInt_one]
  nearest := by
    obtain ⟨rank, made, nearest⟩ := exists_ofInt_nearest n
    exact ⟨rank, congrArg some made, nearest⟩
  written := Formatter.exists_writesWhole_number n

/-- A value does not carry numbers of both signs. -/
theorem Carries.neg_iff {v : Value} {m n : ℤ} (one : v.Carries m) (another : v.Carries n) :
    m < 0 ↔ n < 0 := by
  obtain ⟨rank, stands, -⟩ := one.nearest
  obtain ⟨other, alsoStands, -⟩ := another.nearest
  rw [stands, Option.some.injEq, Double.finite.injEq] at alsoStands
  exact decide_eq_decide.mp alsoStands.1

/-- An unsigned number keeps its bits, of which the first one is the sign. -/
theorem toInt_toInt64 (n : UInt64) :
    n.toInt64.toInt = if n.toNat < 2 ^ 63 then (n.toNat : ℤ) else n.toNat - 2 ^ 64 := by
  have bits : n.toInt64.toInt = n.toBitVec.toInt := rfl
  have same : n.toBitVec.toNat = n.toNat := rfl
  rw [bits, BitVec.toInt_eq_toNat_cond, same]
  split <;> split <;> omega

/-- The value of a document with an unsigned number. -/
theorem ofInteger_toNat (n : UInt64) :
    ofInteger n.toNat =
      if n.toNat < 2 ^ 63 then .number n.toInt64 else .float (.ofInt n.toNat) := by
  have least : Int64.minValue.toInt = -2 ^ 63 := rfl
  have greatest : Int64.maxValue.toInt = 2 ^ 63 - 1 := rfl
  rw [ofInteger, least, greatest]
  by_cases small : n.toNat < 2 ^ 63
  · rw [if_pos (by omega), if_pos small, Value.number.injEq, ← Int64.toInt_inj,
      Int64.toInt_ofInt_of_le (by omega) (by omega), toInt_toInt64, if_pos small]
  · rw [if_neg (by omega), if_neg small]

/-- A plain text begins with a minus sign. -/
def ShowsMinus (v : Value) : Prop := v.plainText.toList.head? = some '-'

theorem showsMinus_iff {v : Value} {negative : Bool} {m : ℚ} {text : List Char}
    (plain : PlainNumeral m text)
    (shown : v.plainText = String.ofList (signText negative ++ text)) :
    v.ShowsMinus ↔ negative = true := by
  obtain ⟨c, first, isDigit⟩ := plain.head?_isDigit
  rw [ShowsMinus, shown, String.toList_ofList]
  cases negative with
  | true => exact iff_of_true rfl rfl
  | false =>
      refine iff_of_false (fun minus => ?_) nofun
      rw [signText, if_neg nofun, List.nil_append, first, Option.some.injEq] at minus
      rw [minus] at isDigit
      cases isDigit

theorem Carries.showsMinus_iff {v : Value} {n : ℤ} (carries : v.Carries n) :
    v.ShowsMinus ↔ n < 0 :=
  (Value.showsMinus_iff (.of_natCast n.natAbs) carries.plainText_eq).trans decide_eq_true_iff

theorem not_showsMinus_ofJson (n : UInt64) : ¬ (ofJson (.integer n.toNat)).ShowsMinus := by
  rw [ofJson, ofInteger_toNat]
  split
  · rename_i small
    rw [(carries_number n.toInt64).showsMinus_iff, toInt_toInt64, if_pos small]
    omega
  · have few : n.toNat < 2 ^ 1023 :=
      n.toNat_lt.trans (pow_lt_pow_right₀ one_lt_two (by omega))
    obtain ⟨rank, -, made, -, -⟩ := exists_ofInt_rounds n.toNat (by rwa [Int.natAbs_natCast])
    have shown : (Value.float (.ofInt n.toNat)).plainText =
        String.ofList (signText false ++ positional (shortest .up rank)) := by
      rw [plainText, plainChars, made, Double.plainText, String.toList_ofList,
        decide_eq_false (by omega)]
    rw [Value.showsMinus_iff (plainNumeral_shortest .up rank) shown]
    exact Bool.false_ne_true

/-- **Host numbers.** Values of signed numbers, and of unsigned ones with 32 bits, carry the number.
A value of an unsigned number with 64 bits carries it if it is below `2 ^ 63`, and otherwise the
number less `2 ^ 64`, which shows a minus sign. The value of a document with the same number never
does. -/
theorem host_numbers (i : Int32) (j : Int64) (u : UInt32) (n : UInt64) :
    (ofInt32 i).Carries i.toInt ∧ (ofInt64 j).Carries j.toInt ∧ (ofUInt32 u).Carries u.toNat ∧
      (ofUInt64 n).Carries (if n.toNat < 2 ^ 63 then (n.toNat : ℤ) else n.toNat - 2 ^ 64) ∧
      ((ofUInt64 n).Carries n.toNat ↔ n.toNat < 2 ^ 63) ∧
      ((ofUInt64 n).ShowsMinus ↔ 2 ^ 63 ≤ n.toNat) ∧
      ¬ (ofJson (.integer n.toNat)).ShowsMinus ∧
      (ofJson (.integer n.toNat) = ofUInt64 n ↔ n.toNat < 2 ^ 63) := by
  have carries := carries_number n.toInt64
  rw [toInt_toInt64] at carries
  have bounded := n.toNat_lt
  refine ⟨?_, carries_number j, ?_, carries, ?_, ?_, not_showsMinus_ofJson n, ?_⟩
  · rw [← i.toInt_toInt64]
    exact carries_number i.toInt64
  · have widened := carries_number u.toUInt64.toInt64
    have small : u.toUInt64.toNat < 2 ^ 63 := by
      have := u.toNat_lt
      rw [u.toNat_toUInt64]
      omega
    rwa [toInt_toInt64, if_pos small, u.toNat_toUInt64] at widened
  · constructor
    · intro whole
      by_contra large
      have signs := carries.neg_iff whole
      rw [if_neg large] at signs
      omega
    · intro small
      rwa [if_pos small] at carries
  · have minus : (ofUInt64 n).ShowsMinus ↔ _ := carries.showsMinus_iff
    rw [minus]
    split <;> omega
  · rw [ofJson, ofInteger_toNat, ofUInt64]
    split
    · rename_i small
      exact iff_of_true rfl small
    · rename_i large
      exact iff_of_false nofun large

/-- Ten to the power nineteen does not fit. -/
theorem host_numbers_wrap :
    let n : UInt64 := 10000000000000000000
    n.toNat = 10 ^ 19 ∧ ¬ (ofUInt64 n).Carries n.toNat ∧
      (ofUInt64 n).plainText = "-8446744073709551616" ∧
      (ofJson (.integer n.toNat)).plainText = "10000000000000000000" := by
  intro n
  have same : n.toNat = 10 ^ 19 := by decide
  refine ⟨same, fun carries => ?_, by decide +kernel, by decide +kernel⟩
  have text := carries.plainText_eq
  rw [same] at text
  revert text
  decide +kernel

end Value

end Phrasebook
