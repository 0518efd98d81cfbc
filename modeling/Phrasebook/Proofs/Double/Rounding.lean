import Mathlib
import Phrasebook.Double.Basic

/-!
# Rounding

What rounding does, in terms of rational numbers. A fraction has a value (`Ratio.value`) and a
finite rank a magnitude (`Double.magnitude`). A magnitude that a value is rounded to has the unit
of the value, is at most half a unit away from it, and is even in a tie (`Dyadic.Rounds`). That is
all that is used of the way in which a double is found: magnitudes with few digits are met exactly,
the error is below one part in `2 ^ 53`, and from `2 ^ 52` on every magnitude is whole.
-/

namespace Phrasebook

/-- Whole numbers less than one apart are equal. -/
theorem natCast_eq_of_abs_sub_lt_one {m n : ℕ} (close : |(m : ℚ) - n| < 1) : m = n := by
  have close : |(m : ℤ) - n| < 1 := by exact_mod_cast close
  have := Int.abs_lt_one_iff.mp close
  omega

/-! ## Fractions -/

namespace Ratio

variable {a b : Ratio}

def value (a : Ratio) : ℚ := a.num / a.den

@[simp] theorem value_whole (n : ℕ) : (whole n).value = n := by
  simp [value, whole]

@[simp] theorem value_mul (a b : Ratio) : (a.mul b).value = a.value * b.value := by
  simp only [value, mul, Nat.cast_mul]
  exact mul_div_mul_comm _ _ _ _

@[simp] theorem value_div (a b : Ratio) : (a.div b).value = a.value / b.value := by
  simp only [value, div, Nat.cast_mul]
  exact (div_div_div_eq _ _ _ _).symm

@[simp] theorem value_power (base : ℕ) (exponent : ℤ) :
    (power base exponent).value = (base : ℚ) ^ exponent := by
  unfold power
  split
  · rename_i nonneg
    obtain ⟨n, rfl⟩ := Int.eq_ofNat_of_zero_le nonneg
    simp [value]
  · rename_i negative
    obtain ⟨n, rfl⟩ : ∃ n : ℕ, exponent = -n := ⟨(-exponent).toNat, by omega⟩
    simp [value]

theorem num_power_pos {base : ℕ} (positive : 0 < base) (exponent : ℤ) :
    0 < (power base exponent).num := by
  unfold power
  split
  · exact Nat.pow_pos positive
  · exact Nat.one_pos

theorem den_power_pos {base : ℕ} (positive : 0 < base) (exponent : ℤ) :
    0 < (power base exponent).den := by
  unfold power
  split
  · exact Nat.one_pos
  · exact Nat.pow_pos positive

theorem le_iff (left : 0 < a.den) (right : 0 < b.den) : a.le b = true ↔ a.value ≤ b.value := by
  have left : (0 : ℚ) < a.den := by exact_mod_cast left
  have right : (0 : ℚ) < b.den := by exact_mod_cast right
  rw [value, value, div_le_div_iff₀ left right, le, decide_eq_true_iff]
  exact_mod_cast Iff.rfl

theorem lt_iff (left : 0 < a.den) (right : 0 < b.den) :
    a.lt b = true ↔ a.value < b.value := by
  have left : (0 : ℚ) < a.den := by exact_mod_cast left
  have right : (0 : ℚ) < b.den := by exact_mod_cast right
  rw [value, value, div_lt_div_iff₀ left right, lt, decide_eq_true_iff]
  exact_mod_cast Iff.rfl

/-- A fraction is a whole number and the rest of a division. -/
theorem value_eq_add (proper : 0 < a.den) :
    a.value = (a.num / a.den : ℕ) + (a.num % a.den : ℕ) / (a.den : ℚ) := by
  have positive : (a.den : ℚ) ≠ 0 := by exact_mod_cast proper.ne'
  have division : (a.num : ℚ) = a.den * (a.num / a.den : ℕ) + (a.num % a.den : ℕ) := by
    exact_mod_cast (Nat.div_add_mod a.num a.den).symm
  rw [value]
  conv_lhs => rw [division]
  field_simp

/-- A fraction lies between the whole number below it and the next one. -/
theorem floor_between (proper : 0 < a.den) :
    (a.num / a.den : ℕ) ≤ a.value ∧ a.value < (a.num / a.den : ℕ) + 1 := by
  have positive : (0 : ℚ) < a.den := by exact_mod_cast proper
  have rest : ((a.num % a.den : ℕ) : ℚ) < a.den := by exact_mod_cast Nat.mod_lt a.num proper
  rw [value_eq_add proper]
  refine ⟨le_add_of_nonneg_right (by positivity), ?_⟩
  gcongr
  exact (div_lt_one positive).mpr rest

/-- The nearest whole number is at most one half away. -/
theorem abs_sub_nearest_le (proper : 0 < a.den) : |a.value - a.nearest| ≤ 1 / 2 := by
  have positive : (0 : ℚ) < a.den := by exact_mod_cast proper
  have rest : (a.num % a.den : ℕ) < (a.den : ℚ) := by exact_mod_cast Nat.mod_lt a.num proper
  have above : (0 : ℚ) ≤ (a.num % a.den : ℕ) / (a.den : ℚ) := by positivity
  have below : (a.num % a.den : ℕ) / (a.den : ℚ) < 1 := (div_lt_one positive).mpr rest
  rw [value_eq_add proper, nearest, abs_le]
  split
  · rename_i small
    have small : (a.num % a.den : ℕ) / (a.den : ℚ) < 1 / 2 := by
      rw [div_lt_iff₀ positive]
      have : 2 * ((a.num % a.den : ℕ) : ℚ) < a.den := by exact_mod_cast small
      linarith
    constructor <;> linarith
  · rename_i notSmall
    have notSmall : 1 / 2 ≤ (a.num % a.den : ℕ) / (a.den : ℚ) := by
      rw [le_div_iff₀ positive]
      have : (a.den : ℚ) ≤ 2 * (a.num % a.den : ℕ) := by exact_mod_cast not_lt.mp notSmall
      linarith
    split
    · push_cast
      constructor <;> linarith
    · rename_i notLarge
      have notLarge : (a.num % a.den : ℕ) / (a.den : ℚ) ≤ 1 / 2 := by
        rw [div_le_iff₀ positive]
        have : 2 * ((a.num % a.den : ℕ) : ℚ) ≤ a.den := by exact_mod_cast not_lt.mp notLarge
        linarith
      split
      · constructor <;> linarith
      · push_cast
        constructor <;> linarith

/-- A whole number less than one half away is the nearest one. -/
theorem nearest_eq (proper : 0 < a.den) {n : ℕ} (near : |a.value - n| < 1 / 2) :
    a.nearest = n := by
  refine natCast_eq_of_abs_sub_lt_one ?_
  have nearest := abs_sub_nearest_le proper
  rw [abs_le] at nearest
  rw [abs_lt] at near ⊢
  constructor <;> linarith

/-- When a fraction is a whole number and one half. -/
theorem value_eq_add_half_iff (proper : 0 < a.den) {n : ℕ} :
    a.value = n + 1 / 2 ↔ 2 * (a.num % a.den) = a.den ∧ a.num / a.den = n := by
  have positive : (a.den : ℚ) ≠ 0 := by exact_mod_cast proper.ne'
  constructor
  · intro half
    have twice : 2 * a.num = (2 * n + 1) * a.den := by
      rw [value, div_eq_iff positive] at half
      have : (2 : ℚ) * a.num = (2 * n + 1) * a.den := by rw [half]; ring
      exact_mod_cast this
    have division := Nat.div_add_mod a.num a.den
    have rest := Nat.mod_lt a.num proper
    have quotient : a.num / a.den = n := by
      refine Nat.div_eq_of_lt_le ?_ ?_ <;> nlinarith
    rw [quotient] at division
    exact ⟨by nlinarith, quotient⟩
  · rintro ⟨half, rfl⟩
    have half : 2 * ((a.num % a.den : ℕ) : ℚ) = a.den := by exact_mod_cast half
    rw [value_eq_add proper, ← half]
    have nonzero : ((a.num % a.den : ℕ) : ℚ) ≠ 0 := by
      intro zero
      rw [zero] at half
      exact positive (by linarith)
    field_simp

/-- When a fraction is a whole number. -/
theorem value_eq_natCast_iff (proper : 0 < a.den) {n : ℕ} :
    a.value = n ↔ a.num % a.den = 0 ∧ a.num / a.den = n := by
  have positive : (a.den : ℚ) ≠ 0 := by exact_mod_cast proper.ne'
  rw [value, div_eq_iff positive]
  constructor
  · intro same
    have same : a.num = n * a.den := by exact_mod_cast same
    rw [same]
    exact ⟨Nat.mul_mod_left _ _, Nat.mul_div_cancel _ proper⟩
  · rintro ⟨rest, rfl⟩
    exact_mod_cast (Nat.div_mul_cancel (Nat.dvd_of_mod_eq_zero rest)).symm

/-- Of two equally near whole numbers the even one is taken. -/
theorem nearest_even (proper : 0 < a.den) {n : ℕ} (half : a.value = n + 1 / 2) :
    a.nearest % 2 = 0 := by
  obtain ⟨rest, -⟩ := (value_eq_add_half_iff proper).mp half
  simp only [nearest, rest, lt_self_iff_false, if_false]
  split <;> omega

theorem nearest_even_of_tie (proper : 0 < a.den) (tie : |a.value - a.nearest| = 1 / 2) :
    a.nearest % 2 = 0 := by
  have nonneg : 0 ≤ a.value := by
    unfold value
    positivity
  rcases eq_or_eq_neg_of_abs_eq tie with above | below
  · exact nearest_even proper (n := a.nearest) (by linarith)
  · cases count : a.nearest with
    | zero => rfl
    | succ n =>
        rw [← count]
        refine nearest_even proper (n := n) ?_
        rw [count] at below
        push_cast at below
        linarith

end Ratio

/-! ## Magnitudes -/

namespace Dyadic

variable {digits : ℕ} {least : ℤ} {v : ℚ} {x : Dyadic}

def value (x : Dyadic) : ℚ := x.mantissa * 2 ^ x.exponent

@[simp] theorem value_toRatio (x : Dyadic) : x.toRatio.value = x.value := by
  simp [toRatio, value]

theorem den_toRatio_pos (x : Dyadic) : 0 < x.toRatio.den :=
  Nat.mul_pos Nat.one_pos (Ratio.den_power_pos two_pos _)

/-- A magnitude is one that a value is rounded to: its unit is the greatest for which the value
has `digits` binary digits, or the least unit, and it is the nearest multiple of its unit, the even
one in a tie. -/
structure Rounds (digits : ℕ) (least : ℤ) (v : ℚ) (x : Dyadic) : Prop where
  least_le : least ≤ x.exponent
  below : v < 2 ^ (digits + x.exponent)
  full : x.exponent = least ∨ 2 ^ (digits - 1 + x.exponent) ≤ v
  near : |v / 2 ^ x.exponent - x.mantissa| ≤ 1 / 2
  even : |v / 2 ^ x.exponent - x.mantissa| = 1 / 2 → x.mantissa % 2 = 0

theorem unit_pos (e : ℤ) : (0 : ℚ) < 2 ^ e := zpow_pos two_pos e

theorem unit_add (d e : ℤ) : (2 : ℚ) ^ (d + e) = 2 ^ d * 2 ^ e :=
  zpow_add₀ two_ne_zero d e

theorem unit_le {d e : ℤ} (le : d ≤ e) : (2 : ℚ) ^ d ≤ 2 ^ e :=
  zpow_le_zpow_right₀ one_le_two le

namespace Rounds

/-- A value that is a multiple of the unit is met exactly. -/
theorem mantissa_eq (rounds : Rounds digits least v x) {n : ℕ} (whole : v / 2 ^ x.exponent = n) :
    x.mantissa = n := by
  have near := rounds.near
  rw [whole] at near
  exact (natCast_eq_of_abs_sub_lt_one (by linarith)).symm

theorem value_eq_of_whole (rounds : Rounds digits least v x) {n : ℕ}
    (whole : v / 2 ^ x.exponent = n) : x.value = v := by
  rw [value, rounds.mantissa_eq whole, ← whole]
  exact div_mul_cancel₀ v (unit_pos _).ne'

theorem mantissa_le (rounds : Rounds digits least v x) : x.mantissa ≤ 2 ^ digits := by
  have below : v / 2 ^ x.exponent < 2 ^ digits := by
    rw [div_lt_iff₀ (unit_pos _), ← zpow_natCast, ← unit_add]
    exact rounds.below
  have near := abs_le.mp rounds.near
  have : (x.mantissa : ℚ) < 2 ^ digits + 1 := by linarith
  exact Nat.lt_succ_iff.mp (by exact_mod_cast this)

theorem le_mantissa (rounds : Rounds digits least v x) (some : 0 < digits) :
    x.exponent = least ∨ 2 ^ (digits - 1) ≤ x.mantissa := by
  refine rounds.full.imp_right fun full => ?_
  have above : (2 ^ (digits - 1) : ℕ) ≤ v / 2 ^ x.exponent := by
    rw [le_div_iff₀ (unit_pos _)]
    push_cast
    rw [← zpow_natCast, ← unit_add, Nat.cast_sub some]
    exact full
  have near := abs_le.mp rounds.near
  have : ((2 ^ (digits - 1) : ℕ) : ℚ) < x.mantissa + 1 := by linarith
  exact Nat.lt_succ_iff.mp (by exact_mod_cast this)

theorem abs_sub_value_le (rounds : Rounds digits least v x) :
    |v - x.value| ≤ 2 ^ x.exponent / 2 := by
  have scaled : v - x.value = (v / 2 ^ x.exponent - x.mantissa) * 2 ^ x.exponent := by
    have := (unit_pos x.exponent).ne'
    rw [value]
    field_simp
  rw [scaled, abs_mul, abs_of_pos (unit_pos _)]
  have := mul_le_mul_of_nonneg_right rounds.near (unit_pos x.exponent).le
  linarith

/-- The error of rounding is less than one part in `2 ^ digits`. -/
theorem abs_sub_value_lt (rounds : Rounds digits least v x) (some : 0 < digits)
    (normal : 2 ^ (digits - 1 + least) ≤ v) : |v - x.value| < v / 2 ^ digits := by
  have full : 2 ^ (digits - 1 + x.exponent) ≤ v := by
    rcases rounds.full with same | full
    · rwa [same]
    · exact full
  have positive : 0 < v := (unit_pos _).trans_le full
  have first : (2 : ℚ) ^ (digits - 1 + x.exponent) = (2 ^ (digits - 1) : ℕ) * 2 ^ x.exponent := by
    rw [unit_add, ← Nat.cast_pred some, zpow_natCast]
    push_cast
    rfl
  have twice : (2 : ℚ) ^ digits = 2 * (2 ^ (digits - 1) : ℕ) := by
    push_cast
    rw [← pow_succ', Nat.sub_add_cancel some]
  rw [lt_div_iff₀ (by positivity)]
  rcases full.lt_or_eq with above | same
  · calc |v - x.value| * 2 ^ digits
        ≤ 2 ^ x.exponent / 2 * 2 ^ digits := by
          gcongr
          exact rounds.abs_sub_value_le
      _ = 2 ^ (digits - 1 + x.exponent) := by
          rw [first, twice]
          ring
      _ < v := above
  · -- The first value of a run is met exactly.
    have whole : v / 2 ^ x.exponent = (2 ^ (digits - 1) : ℕ) := by
      rw [div_eq_iff (unit_pos _).ne', ← same, first]
    simpa [rounds.value_eq_of_whole whole] using positive

/-- A value with few enough digits is met exactly. -/
theorem value_eq (rounds : Rounds digits least v x) {m : ℕ} {k : ℤ} (spelled : v = m * 2 ^ k)
    (few : m < 2 ^ digits) (coarse : least ≤ k) : x.value = v := by
  have fine : x.exponent ≤ k := by
    rcases rounds.full with same | full
    · rw [same]
      exact coarse
    · by_contra above
      -- The unit would give the value too many digits.
      have small : v < 2 ^ (digits + k) := by
        rw [spelled, unit_add, zpow_natCast]
        have : (m : ℚ) < 2 ^ digits := by exact_mod_cast few
        exact mul_lt_mul_of_pos_right this (unit_pos k)
      have : (2 : ℚ) ^ (digits + k) ≤ 2 ^ (digits - 1 + x.exponent) := unit_le (by omega)
      linarith
  obtain ⟨j, steps⟩ := Int.eq_ofNat_of_zero_le (sub_nonneg.mpr fine)
  have whole : v / 2 ^ x.exponent = (m * 2 ^ j : ℕ) := by
    rw [div_eq_iff (unit_pos _).ne', spelled, show k = j + x.exponent by omega, unit_add,
      zpow_natCast]
    push_cast
    ring
  exact rounds.value_eq_of_whole whole

end Rounds

/-- The power of two below a positive fraction is one of two that the binary logarithms name. -/
theorem value_between {a : Ratio} (positive : 0 < a.num) (proper : 0 < a.den) :
    2 ^ ((a.num.log2 : ℤ) - a.den.log2 - 1) ≤ a.value ∧
      a.value < 2 ^ ((a.num.log2 : ℤ) - a.den.log2 + 1) := by
  have den : (0 : ℚ) < a.den := by exact_mod_cast proper
  have numLow : (2 : ℚ) ^ a.num.log2 ≤ a.num := by
    exact_mod_cast Nat.log2_self_le positive.ne'
  have numHigh : (a.num : ℚ) < 2 ^ (a.num.log2 + 1) := by exact_mod_cast Nat.lt_log2_self
  have denLow : (2 : ℚ) ^ a.den.log2 ≤ a.den := by exact_mod_cast Nat.log2_self_le proper.ne'
  have denHigh : (a.den : ℚ) < 2 ^ (a.den.log2 + 1) := by exact_mod_cast Nat.lt_log2_self
  rw [Ratio.value]
  constructor
  · have power : (2 : ℚ) ^ ((a.num.log2 : ℤ) - a.den.log2 - 1) =
        2 ^ a.num.log2 / 2 ^ (a.den.log2 + 1) := by
      rw [← zpow_natCast, ← zpow_natCast, ← zpow_sub₀ two_ne_zero]
      congr 1
      push_cast
      ring
    rw [power]
    gcongr
  · have power : (2 : ℚ) ^ ((a.num.log2 : ℤ) - a.den.log2 + 1) =
        2 ^ (a.num.log2 + 1) / 2 ^ a.den.log2 := by
      rw [← zpow_natCast, ← zpow_natCast, ← zpow_sub₀ two_ne_zero]
      congr 1
      push_cast
      ring
    rw [power]
    gcongr

/-- The magnitude nearest to a fraction is one that its value is rounded to. -/
theorem rounds_nearest (digits : ℕ) (least : ℤ) {a : Ratio} (positive : 0 < a.num)
    (proper : 0 < a.den) : Rounds digits least a.value (nearest digits least a) := by
  obtain ⟨low, high⟩ := value_between positive proper
  let estimate : ℤ := (a.num.log2 : ℤ) - a.den.log2 - digits
  let tooSmall := (Ratio.power 2 (estimate + digits)).le a
  let exponent := if tooSmall then estimate + 1 else estimate
  have small_iff : tooSmall = true ↔ (2 : ℚ) ^ (estimate + digits) ≤ a.value := by
    rw [Ratio.le_iff (Ratio.den_power_pos two_pos _) proper, Ratio.value_power]
    rfl
  -- The estimated unit is right, or one step too small.
  have run : a.value < 2 ^ (digits + exponent) ∧ 2 ^ (digits - 1 + exponent) ≤ a.value := by
    cases small : tooSmall with
    | true =>
        have above := small_iff.mp small
        simp only [exponent, small, if_true, estimate] at above ⊢
        refine ⟨high.trans_eq (congrArg _ (by ring)), le_of_eq_of_le (congrArg _ (by ring)) above⟩
    | false =>
        have below := not_le.mp (small_iff.not.mp (by simp [small]))
        simp only [exponent, small, estimate, Bool.false_eq_true, if_false] at below ⊢
        exact ⟨below.trans_eq (congrArg _ (by ring)), le_of_eq_of_le (congrArg _ (by ring)) low⟩
  have same : (nearest digits least a).exponent = max least exponent := rfl
  have scaled : (a.div (.power 2 (max least exponent))).value =
      a.value / 2 ^ (nearest digits least a).exponent := by
    rw [Ratio.value_div, Ratio.value_power]
    rfl
  have scaledProper : 0 < (a.div (.power 2 (max least exponent))).den :=
    Nat.mul_pos proper (Ratio.num_power_pos two_pos _)
  refine ⟨le_max_left _ _, ?_, ?_, ?_, ?_⟩
  · rw [same]
    exact run.1.trans_le (unit_le (by omega))
  · rw [same]
    rcases le_total exponent least with fine | coarse
    · exact .inl (max_eq_left fine)
    · rw [max_eq_right coarse]
      exact .inr run.2
  · rw [← scaled]
    exact Ratio.abs_sub_nearest_le scaledProper
  · rw [← scaled]
    exact Ratio.nearest_even_of_tie scaledProper

end Dyadic

/-! ## Doubles -/

namespace Double

variable {negative : Bool} {a : Ratio} {rank : Fin ranks} {x : Dyadic}

/-- The magnitude with a rank. -/
def magnitude (rank : Fin ranks) : ℚ := (dyadicOfRank rank.val).value

theorem value_ratioOfRank (rank : Fin ranks) : (ratioOfRank rank).value = magnitude rank :=
  Dyadic.value_toRatio _

theorem den_ratioOfRank_pos (rank : Fin ranks) : 0 < (ratioOfRank rank).den :=
  Dyadic.den_toRatio_pos _

theorem magnitude_nonneg (rank : Fin ranks) : 0 ≤ magnitude rank := by
  unfold magnitude Dyadic.value
  positivity

theorem magnitude_pos_iff : 0 < magnitude rank ↔ rank.val ≠ 0 := by
  have unit := Dyadic.unit_pos (dyadicOfRank rank.val).exponent
  rw [magnitude, Dyadic.value, mul_pos_iff_of_pos_right unit, Nat.cast_pos]
  unfold dyadicOfRank
  simp only [Nat.pow_eq]
  split
  · exact Nat.pos_iff_ne_zero
  · simp only
    omega

/-- The rank of a magnitude names the magnitude. -/
theorem value_dyadicOfRank_rankOfDyadic (least : -1074 ≤ x.exponent)
    (small : x.mantissa ≤ 2 ^ 53) (full : x.exponent = -1074 ∨ 2 ^ 52 ≤ x.mantissa) :
    (dyadicOfRank (rankOfDyadic x)).value = x.value := by
  obtain ⟨m, e⟩ := x
  simp only at least small full
  obtain ⟨k, steps⟩ := Int.eq_ofNat_of_zero_le (show 0 ≤ e + 1074 by omega)
  obtain rfl : e = k - 1074 := by omega
  have rank : rankOfDyadic ⟨m, k - 1074⟩ = k * 2 ^ 52 + m := by
    simp [rankOfDyadic]
  rw [rank, dyadicOfRank]
  simp only [Nat.pow_eq]
  split
  · -- Only the lowest run has mantissas below `2 ^ 52`.
    obtain rfl : k = 0 := by omega
    simp
  · rcases small.lt_or_eq with inside | rfl
    · have quotient : (k * 2 ^ 52 + m) / 2 ^ 52 = k + 1 := by omega
      have rest : 2 ^ 52 + (k * 2 ^ 52 + m) % 2 ^ 52 = m := by omega
      rw [quotient, rest]
      push_cast
      congr 2
      ring
    · -- The next run begins, with twice the unit.
      have quotient : (k * 2 ^ 52 + 2 ^ 53) / 2 ^ 52 = k + 2 := by omega
      have rest : 2 ^ 52 + (k * 2 ^ 52 + 2 ^ 53) % 2 ^ 52 = 2 ^ 52 := by omega
      rw [quotient, rest, Dyadic.value, Dyadic.value]
      have exponent : ((k + 2 : ℕ) : ℤ) - 1075 = 1 + (k - 1074) := by
        push_cast
        ring
      rw [exponent, Dyadic.unit_add]
      push_cast
      ring

theorem magnitude_of_rounds {v : ℚ} (rounds : x.Rounds 53 (-1074) v)
    (named : rank.val = rankOfDyadic x) : magnitude rank = x.value := by
  rw [magnitude, named]
  exact value_dyadicOfRank_rankOfDyadic rounds.least_le rounds.mantissa_le
    (rounds.le_mantissa (by omega))

theorem rankOfDyadic_lt {v : ℚ} (rounds : x.Rounds 53 (-1074) v) (small : v < 2 ^ 1023) :
    rankOfDyadic x < ranks := by
  have exponent : x.exponent ≤ 970 := by
    rcases rounds.full with least | full
    · omega
    · by_contra above
      have large : (2 : ℚ) ^ 1023 ≤ 2 ^ ((53 : ℕ) - 1 + x.exponent) := by
        rw [← zpow_natCast]
        exact Dyadic.unit_le (by omega)
      exact absurd (full.trans_lt small) large.not_gt
  have mantissa := rounds.mantissa_le
  have steps : (x.exponent + 1074).toNat ≤ 2044 := by omega
  simp only [rankOfDyadic, ranks, Nat.pow_eq]
  omega

/-- A double made of a fraction is one that its value is rounded to, unless there is none. -/
theorem ofRatio_eq_ofRank (negative : Bool) (proper : 0 < a.den) :
    ∃ x : Dyadic, x.Rounds 53 (-1074) a.value ∧
      ofRatio negative a = ofRank negative (rankOfDyadic x) := by
  unfold ofRatio
  split
  · rename_i zero
    have value : a.value = 0 := by simp [Ratio.value, zero]
    refine ⟨⟨0, -1074⟩, ⟨le_rfl, ?_, .inl rfl, by simp [value], fun _ => rfl⟩,
      by simp [rankOfDyadic]⟩
    rw [value]
    exact Dyadic.unit_pos _
  · rename_i nonzero
    exact ⟨_, Dyadic.rounds_nearest 53 (-1074) (Nat.pos_of_ne_zero nonzero) proper, rfl⟩

theorem rounds_of_ofRatio {negative other : Bool} (proper : 0 < a.den)
    (made : ofRatio negative a = .finite other rank) :
    ∃ x : Dyadic, x.Rounds 53 (-1074) a.value ∧ magnitude rank = x.value := by
  obtain ⟨x, rounds, same⟩ := ofRatio_eq_ofRank negative proper
  refine ⟨x, rounds, magnitude_of_rounds rounds ?_⟩
  rw [same, ofRank] at made
  split at made
  · cases made
    rfl
  · cases made

/-- A fraction that is not too great makes a finite double. -/
theorem exists_ofRatio_eq_finite (negative : Bool) (proper : 0 < a.den)
    (small : a.value < 2 ^ 1023) : ∃ rank, ofRatio negative a = .finite negative rank := by
  obtain ⟨x, rounds, same⟩ := ofRatio_eq_ofRank negative proper
  have bounded := rankOfDyadic_lt rounds small
  exact ⟨⟨_, bounded⟩, by rw [same, ofRank, dif_pos bounded]⟩

/-- A value with at most 53 binary digits is met exactly. -/
theorem magnitude_of_ofRatio {negative other : Bool} (proper : 0 < a.den)
    (made : ofRatio negative a = .finite other rank) {m : ℕ} {k : ℤ}
    (spelled : a.value = m * 2 ^ k) (few : m < 2 ^ 53) (coarse : -1074 ≤ k) :
    magnitude rank = a.value := by
  obtain ⟨x, rounds, same⟩ := rounds_of_ofRatio proper made
  rw [same, rounds.value_eq spelled few coarse]

/-- Any other value that is not too small is met up to one part in `2 ^ 53`. -/
theorem abs_sub_magnitude_lt {negative other : Bool} (proper : 0 < a.den)
    (made : ofRatio negative a = .finite other rank) (normal : 2 ^ (-1022 : ℤ) ≤ a.value) :
    |a.value - magnitude rank| < a.value / 2 ^ 53 := by
  obtain ⟨x, rounds, same⟩ := rounds_of_ofRatio proper made
  rw [same]
  exact rounds.abs_sub_value_lt (by omega) normal

/-- From `2 ^ 52` on every value is rounded to a whole number. -/
theorem magnitude_whole {negative other : Bool} (proper : 0 < a.den)
    (made : ofRatio negative a = .finite other rank) (large : 2 ^ 52 ≤ a.value) :
    ∃ n : ℕ, magnitude rank = n := by
  obtain ⟨x, rounds, same⟩ := rounds_of_ofRatio proper made
  have exponent : 0 ≤ x.exponent := by
    by_contra fine
    have small : (2 : ℚ) ^ ((53 : ℕ) + x.exponent) ≤ 2 ^ 52 := by
      rw [← zpow_natCast]
      exact Dyadic.unit_le (by omega)
    exact absurd (rounds.below.trans_le small) large.not_gt
  obtain ⟨k, power⟩ := Int.eq_ofNat_of_zero_le exponent
  refine ⟨x.mantissa * 2 ^ k, ?_⟩
  rw [same, Dyadic.value, power, zpow_natCast]
  push_cast
  rfl

/-! ## Operations -/

variable {s t : Bool} {b : Fin ranks}

/-- A whole number that is not too great makes a finite double. -/
theorem exists_ofInt_rounds (n : ℤ) (small : n.natAbs < 2 ^ 1023) :
    ∃ (rank : Fin ranks) (x : Dyadic), ofInt n = .finite (decide (n < 0)) rank ∧
      x.Rounds 53 (-1074) n.natAbs ∧ magnitude rank = x.value := by
  have value : (Ratio.whole n.natAbs).value = (n.natAbs : ℕ) := Ratio.value_whole _
  have small : (Ratio.whole n.natAbs).value < 2 ^ 1023 := by
    rw [value]
    exact_mod_cast small
  obtain ⟨rank, made⟩ := exists_ofRatio_eq_finite (decide (n < 0)) Nat.one_pos small
  obtain ⟨x, rounds, same⟩ := rounds_of_ofRatio Nat.one_pos made
  rw [value] at rounds
  exact ⟨rank, x, by rw [ofInt, made], rounds, same⟩

/-- A whole number with at most 53 binary digits is a double. -/
theorem exists_ofInt_eq_finite {n : ℕ} (few : n < 2 ^ 53) :
    ∃ rank, ofInt n = .finite false rank ∧ magnitude rank = n := by
  have small : n < 2 ^ 1023 := few.trans (pow_lt_pow_right₀ one_lt_two (by omega))
  obtain ⟨rank, x, made, rounds, same⟩ := exists_ofInt_rounds n small
  rw [decide_eq_false (by omega)] at made
  rw [Int.natAbs_natCast] at rounds
  exact ⟨rank, made, same.trans (rounds.value_eq (m := n) (k := 0) (by simp) few (by omega))⟩

theorem mul_finite (s t : Bool) (a b : Fin ranks) :
    (finite s a).mul (.finite t b) = ofRatio (s != t) ((ratioOfRank a).mul (ratioOfRank b)) ∧
      ((ratioOfRank a).mul (ratioOfRank b)).value = magnitude a * magnitude b ∧
      0 < ((ratioOfRank a).mul (ratioOfRank b)).den :=
  ⟨rfl, by simp [value_ratioOfRank], Nat.mul_pos (den_ratioOfRank_pos a) (den_ratioOfRank_pos b)⟩

theorem div_finite (s t : Bool) (a : Fin ranks) (positive : 0 < magnitude b) :
    (finite s a).div (.finite t b) = ofRatio (s != t) ((ratioOfRank a).div (ratioOfRank b)) ∧
      ((ratioOfRank a).div (ratioOfRank b)).value = magnitude a / magnitude b ∧
      0 < ((ratioOfRank a).div (ratioOfRank b)).den := by
  have num : 0 < (ratioOfRank b).num := by
    rw [Nat.pos_iff_ne_zero]
    intro zero
    simp [← value_ratioOfRank, Ratio.value, zero] at positive
  have nonzero : ¬ b.val = 0 := magnitude_pos_iff.mp positive
  refine ⟨by simp [div, nonzero], by simp [value_ratioOfRank], ?_⟩
  exact Nat.mul_pos (den_ratioOfRank_pos a) num

/-- A product with at most 53 binary digits is exact. -/
theorem exists_mul_eq_finite (s t : Bool) {a : Fin ranks} {m : ℕ} {k : ℤ}
    (spelled : magnitude a * magnitude b = m * 2 ^ k) (few : m < 2 ^ 53) (coarse : -1074 ≤ k)
    (small : magnitude a * magnitude b < 2 ^ 1023) :
    ∃ product, (finite s a).mul (.finite t b) = .finite (s != t) product ∧
      magnitude product = magnitude a * magnitude b := by
  obtain ⟨same, value, proper⟩ := mul_finite s t a b
  rw [← value] at spelled small
  obtain ⟨product, made⟩ := exists_ofRatio_eq_finite (s != t) proper small
  exact ⟨product, same.trans made,
    (magnitude_of_ofRatio proper made spelled few coarse).trans value⟩

/-- A product of at least `2 ^ 52` is whole, if it is finite. -/
theorem magnitude_mul_whole {negative : Bool} {a product : Fin ranks}
    (made : (finite s a).mul (.finite t b) = .finite negative product)
    (large : 2 ^ 52 ≤ magnitude a * magnitude b) : ∃ n : ℕ, magnitude product = n := by
  obtain ⟨same, value, proper⟩ := mul_finite s t a b
  rw [← value] at large
  exact magnitude_whole proper (same.symm.trans made) large

theorem exists_div_eq_finite (s t : Bool) {a : Fin ranks} (positive : 0 < magnitude b)
    (normal : 2 ^ (-1022 : ℤ) ≤ magnitude a / magnitude b)
    (small : magnitude a / magnitude b < 2 ^ 1023) :
    ∃ quotient, (finite s a).div (.finite t b) = .finite (s != t) quotient ∧
      |magnitude a / magnitude b - magnitude quotient| < magnitude a / magnitude b / 2 ^ 53 := by
  obtain ⟨same, value, proper⟩ := div_finite s t a positive
  rw [← value] at normal small ⊢
  obtain ⟨quotient, made⟩ := exists_ofRatio_eq_finite (s != t) proper small
  exact ⟨quotient, same.trans made, abs_sub_magnitude_lt proper made normal⟩

end Double

end Phrasebook
