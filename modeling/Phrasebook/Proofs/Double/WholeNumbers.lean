import Phrasebook.Proofs.Double.FixedText

/-!
# Whole numbers as doubles

A whole number with more than 53 binary digits is rounded when it becomes a double: to a multiple
of the power of two that counts the digits beyond (`wholeUnit`), the nearest one, and the even one
of two that are equally near (`RoundsToWhole`, `exists_ofInt_eq_rounded`). Nothing else is lost
when the double is written with a fixed number of places: its digits are those of the rounded
number, with zeros behind the point (`fixedText_of_whole`).
-/

namespace Phrasebook

/-- What the 53rd binary digit of a number counts for; one, if the number has no more digits. -/
def wholeUnit (n : ℕ) : ℕ := 2 ^ (n.log2 - 52)

/-- A number is rounded to the nearest multiple of its unit, the even one in a tie. -/
structure RoundsToWhole (n shown : ℕ) : Prop where
  dvd : wholeUnit n ∣ shown
  near : 2 * |(n : ℤ) - shown| ≤ wholeUnit n
  even : 2 * |(n : ℤ) - shown| = wholeUnit n → 2 ∣ shown / wholeUnit n

variable {n shown : ℕ}

theorem wholeUnit_pos (n : ℕ) : 0 < wholeUnit n := Nat.two_pow_pos _

theorem wholeUnit_eq_one (few : n < 2 ^ 53) : wholeUnit n = 1 := by
  have digits : n.log2 - 52 = 0 := by
    by_cases zero : n = 0
    · subst zero
      rfl
    · have := (Nat.log2_lt zero).mpr few
      omega
  rw [wholeUnit, digits, pow_zero]

theorem wholeUnit_le (some : n ≠ 0) : wholeUnit n ≤ n :=
  (Nat.pow_le_pow_right two_pos (Nat.sub_le _ _)).trans (Nat.log2_self_le some)

theorem wholeUnit_dvd_of_le (few : n ≤ 2 ^ 53) : wholeUnit n ∣ n := by
  rcases few.lt_or_eq with fewer | rfl
  · rw [wholeUnit_eq_one fewer]
    exact one_dvd n
  · decide +kernel

namespace RoundsToWhole

/-- Nothing is lost iff the number is a multiple of its unit. -/
theorem eq_iff (rounds : RoundsToWhole n shown) : shown = n ↔ wholeUnit n ∣ n := by
  constructor
  · intro same
    have multiple := rounds.dvd
    rwa [same] at multiple
  · intro multiple
    have difference : (wholeUnit n : ℤ) ∣ n - shown :=
      dvd_sub (Int.natCast_dvd_natCast.mpr multiple) (Int.natCast_dvd_natCast.mpr rounds.dvd)
    have positive : (0 : ℤ) < wholeUnit n := by exact_mod_cast wholeUnit_pos n
    have none : (n : ℤ) - shown = 0 := by
      refine Int.eq_zero_of_abs_lt_dvd difference ?_
      have near := rounds.near
      have nonneg := abs_nonneg ((n : ℤ) - shown)
      omega
    omega

theorem eq_of_le (rounds : RoundsToWhole n shown) (few : n ≤ 2 ^ 53) : shown = n :=
  rounds.eq_iff.mpr (wholeUnit_dvd_of_le few)

theorem eq_zero_iff (rounds : RoundsToWhole n shown) : shown = 0 ↔ n = 0 := by
  constructor
  · rintro rfl
    by_contra some
    have near := rounds.near
    have unit := wholeUnit_le some
    rw [Nat.cast_zero, sub_zero, Nat.abs_cast] at near
    omega
  · rintro rfl
    exact rounds.eq_of_le (Nat.zero_le _)

theorem refl (few : n < 2 ^ 53) : RoundsToWhole n n where
  dvd := wholeUnit_dvd_of_le few.le
  near := by simp
  even := by simp [wholeUnit_eq_one few]

/-- The nearest number of units makes a rounded number. -/
theorem of_units {m : ℕ} (near : |(n : ℚ) / wholeUnit n - m| ≤ 1 / 2)
    (even : |(n : ℚ) / wholeUnit n - m| = 1 / 2 → m % 2 = 0) :
    RoundsToWhole n (m * wholeUnit n) := by
  have positive : (0 : ℚ) < wholeUnit n := by exact_mod_cast wholeUnit_pos n
  have distance : ((2 * |(n : ℤ) - (m * wholeUnit n : ℕ)| : ℤ) : ℚ) =
      2 * |(n : ℚ) / wholeUnit n - m| * wholeUnit n := by
    have scaled : (n : ℚ) - m * wholeUnit n = (n / wholeUnit n - m) * wholeUnit n := by
      field_simp
    push_cast
    rw [scaled, abs_mul, abs_of_pos positive, mul_assoc]
  refine ⟨Dvd.intro_left _ rfl, ?_, ?_⟩
  · have close : 2 * |(n : ℚ) / wholeUnit n - m| * wholeUnit n ≤ wholeUnit n :=
      mul_le_of_le_one_left positive.le (by linarith)
    rw [← distance] at close
    exact_mod_cast close
  · rw [Nat.mul_div_cancel _ (wholeUnit_pos n)]
    intro tie
    have half : 2 * |(n : ℚ) / wholeUnit n - m| * wholeUnit n = 1 * wholeUnit n := by
      rw [← distance, tie, one_mul]
      rfl
    have half := mul_right_cancel₀ positive.ne' half
    exact Nat.dvd_of_mod_eq_zero (even (by linarith))

end RoundsToWhole

namespace Dyadic.Rounds

variable {x : Dyadic}

/-- The unit of the double that a whole number is rounded to. -/
theorem exponent_of_whole (rounds : x.Rounds 53 (-1074) (n : ℚ)) (some : n ≠ 0) :
    x.exponent = n.log2 - 52 := by
  have above : (2 : ℚ) ^ (n.log2 : ℤ) ≤ n := by
    rw [zpow_natCast]
    exact_mod_cast Nat.log2_self_le some
  have below : (n : ℚ) < 2 ^ ((n.log2 : ℤ) + 1) := by
    have : (n : ℚ) < 2 ^ (n.log2 + 1) := by exact_mod_cast Nat.lt_log2_self
    exact_mod_cast this
  have least := (zpow_lt_zpow_iff_right₀ one_lt_two).mp (above.trans_lt rounds.below)
  rcases rounds.full with lowest | full
  · omega
  · have greatest := (zpow_lt_zpow_iff_right₀ one_lt_two).mp (full.trans_lt below)
    omega

theorem exists_whole (rounds : x.Rounds 53 (-1074) (n : ℚ)) :
    ∃ shown : ℕ, x.value = shown ∧ RoundsToWhole n shown := by
  rcases lt_or_ge n (2 ^ 53) with few | many
  · exact ⟨n, rounds.value_eq (m := n) (k := 0) (by simp) few (by omega), .refl few⟩
  · have some : n ≠ 0 := by omega
    have digits : 53 ≤ n.log2 := (Nat.le_log2 some).mpr many
    have unit : (2 : ℚ) ^ x.exponent = wholeUnit n := by
      rw [rounds.exponent_of_whole some, wholeUnit, Nat.cast_pow, ← zpow_natCast,
        Nat.cast_sub (by omega)]
      rfl
    have near := rounds.near
    have even := rounds.even
    rw [unit] at near even
    refine ⟨x.mantissa * wholeUnit n, ?_, .of_units near even⟩
    rw [value, unit, Nat.cast_mul]

end Dyadic.Rounds

namespace Double

variable {rank : Fin ranks} {places : ℕ} {negative : Bool}

/-- A whole number that is not too great becomes the double of its rounded magnitude. -/
theorem exists_ofInt_eq_rounded (n : ℤ) (small : n.natAbs < 2 ^ 1023) :
    ∃ rank shown, ofInt n = .finite (decide (n < 0)) rank ∧ magnitude rank = (shown : ℕ) ∧
      RoundsToWhole n.natAbs shown := by
  obtain ⟨rank, x, made, rounds, same⟩ := exists_ofInt_rounds n small
  obtain ⟨shown, whole, rounded⟩ := rounds.exists_whole
  exact ⟨rank, shown, made, same.trans whole, rounded⟩

theorem whole?_eq_some_iff {n : ℕ} :
    whole? (.finite negative rank) = some n ↔ magnitude rank = n := by
  rw [← value_ratioOfRank, Ratio.value_eq_natCast_iff (den_ratioOfRank_pos rank), whole?]
  simp

theorem units_of_whole (bounded : places ≤ NumberStyle.maxPlaces) (whole : magnitude rank = n) :
    units rank places = n * 10 ^ places := by
  have near := abs_sub_units_le bounded rank
  rw [whole] at near
  refine (natCast_eq_of_abs_sub_lt_one ?_).symm
  push_cast
  linarith

theorem paddedDigits_zero (places : ℕ) : paddedDigits places 0 = zeros places := by
  cases places with
  | zero => rfl
  | succ places =>
      show zeros places ++ ['0'] = zeros (places + 1)
      exact List.replicate_succ'.symm

/-- A double that is a whole number is written with its digits and zeros behind the point. -/
theorem fixedText_of_whole (bounded : places ≤ NumberStyle.maxPlaces)
    (whole : magnitude rank = n) :
    fixedText negative rank places =
      ⟨negative && decide (n ≠ 0), Nat.toDigits 10 n, zeros places⟩ := by
  have marked : (rank.val != 0) = decide (n ≠ 0) := by
    rw [Bool.eq_iff_iff, bne_iff_ne, decide_eq_true_iff, ← magnitude_pos_iff, whole, Nat.cast_pos,
      Nat.pos_iff_ne_zero]
  simp only [fixedText, units_of_whole bounded whole, marked, Nat.pow_eq]
  rw [Nat.mul_div_cancel _ (Nat.pow_pos (by omega)), Nat.mul_mod_left, paddedDigits_zero]

end Double

end Phrasebook
