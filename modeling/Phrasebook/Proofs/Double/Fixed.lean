import Phrasebook.Formatter.Number
import Phrasebook.Proofs.Double.Rounding

/-!
# Fixed places

The units `10 ^ -places` that a magnitude is rounded to are the nearest ones
(`abs_sub_units_le`). What is left is the magnitudes that lie halfway between two. Such a
magnitude has a multiple of `5 ^ places` for the odd number of its halves (`five_pow_le`), so
while there are less than `2 ^ 52` units there are so few places that the scale is exact, the
product with it shows the half, and the magnitude is moved up (`units_of_half`). From `2 ^ 52`
units on, the product is rounded to a whole number, which hides the half, and the even unit is
taken (`units_of_great_half`).
-/

namespace Phrasebook.Double

variable {rank scale : Fin ranks} {places n : ℕ}

/-! ## Halves -/

theorem value_units (rank : Fin ranks) (places : ℕ) :
    ((ratioOfRank rank).mul (.power 10 places)).value = magnitude rank * 10 ^ places := by
  simp [value_ratioOfRank]

theorem den_units_pos (rank : Fin ranks) (places : ℕ) :
    0 < ((ratioOfRank rank).mul (.power 10 places)).den :=
  Nat.mul_pos (den_ratioOfRank_pos rank) (Ratio.den_power_pos (by omega) _)

theorem isHalfway_iff :
    isHalfway rank places = true ↔ ∃ n : ℕ, magnitude rank * 10 ^ places = n + 1 / 2 := by
  simp only [← value_units, Ratio.value_eq_add_half_iff (den_units_pos rank places),
    exists_and_left, exists_eq', and_true]
  exact decide_eq_true_iff

theorem halfAbove?_eq_some_iff {negative : Bool} :
    halfAbove? (.finite negative rank) = some n ↔ magnitude rank = n + 1 / 2 := by
  rw [← value_ratioOfRank, Ratio.value_eq_add_half_iff (den_ratioOfRank_pos rank), halfAbove?]
  simp

theorem abs_sub_nearestUnits_le (rank : Fin ranks) (places : ℕ) :
    |magnitude rank * 10 ^ places - nearestUnits rank places| ≤ 1 / 2 := by
  rw [← value_units]
  exact Ratio.abs_sub_nearest_le (den_units_pos rank places)

theorem nearestUnits_eq (near : |magnitude rank * 10 ^ places - n| < 1 / 2) :
    nearestUnits rank places = n := by
  rw [← value_units] at near
  exact Ratio.nearest_eq (den_units_pos rank places) near

theorem nearestUnits_even (half : magnitude rank * 10 ^ places = n + 1 / 2) :
    nearestUnits rank places % 2 = 0 := by
  rw [← value_units] at half
  exact Ratio.nearest_even (den_units_pos rank places) half

/-- Halves of units take a factor five for each place. -/
theorem five_pow_le (half : magnitude rank * 10 ^ places = n + 1 / 2) :
    5 ^ places ≤ 2 * n + 1 := by
  let x := dyadicOfRank rank.val
  have odd : (x.mantissa : ℚ) * 2 ^ (x.exponent + (1 + places)) * 5 ^ places = 2 * n + 1 := by
    have power : (2 : ℚ) ^ (x.exponent + (1 + places)) = 2 ^ x.exponent * (2 * 2 ^ places) := by
      rw [Dyadic.unit_add, Dyadic.unit_add, zpow_one, zpow_natCast]
    have ten : (10 : ℚ) ^ places = 2 ^ places * 5 ^ places := by
      rw [← mul_pow]
      norm_num
    rw [magnitude, Dyadic.value, ten] at half
    rw [power]
    linear_combination 2 * half
  refine Nat.le_of_dvd (by omega) ?_
  rcases le_total 0 (x.exponent + (1 + places)) with nonneg | negative
  · obtain ⟨k, same⟩ := Int.eq_ofNat_of_zero_le nonneg
    rw [same, zpow_natCast] at odd
    have odd : x.mantissa * 2 ^ k * 5 ^ places = 2 * n + 1 := by exact_mod_cast odd
    exact Dvd.intro_left _ odd
  · obtain ⟨k, same⟩ : ∃ k : ℕ, x.exponent + (1 + places) = -k :=
      ⟨(-(x.exponent + (1 + places))).toNat, by omega⟩
    rw [same, zpow_neg, zpow_natCast] at odd
    have odd : (2 * n + 1) * 2 ^ k = x.mantissa * 5 ^ places := by
      have : ((2 : ℚ) * n + 1) * 2 ^ k = x.mantissa * 5 ^ places := by
        rw [← odd]
        field_simp
      exact_mod_cast this
    have coprime : Nat.Coprime (5 ^ places) (2 ^ k) := Nat.Coprime.pow _ _ (by decide)
    exact coprime.dvd_of_dvd_mul_right (Dvd.intro_left _ odd.symm)

/-! ## Powers of ten -/

/-- Whether a double is a power of ten: exactly so up to `10 ^ 22`, and up to one part in eight
above. -/
def isPowerOfTen (places : ℕ) : Double → Bool
  | .finite false rank =>
    let a := ratioOfRank rank
    7 * (10 ^ places * a.den) ≤ 8 * a.num && (22 < places || a.num = 10 ^ places * a.den)
  | _ => false

theorem isPowerOfTen_pow :
    ∀ places ≤ NumberStyle.maxPlaces, isPowerOfTen places ((ofInt 10).pow places) = true := by
  decide +kernel

theorem exists_pow_eq_finite (bounded : places ≤ NumberStyle.maxPlaces) :
    ∃ scale, (ofInt 10).pow places = .finite false scale ∧
      7 / 8 * 10 ^ places ≤ magnitude scale ∧ (places ≤ 22 → magnitude scale = 10 ^ places) := by
  have power := isPowerOfTen_pow places bounded
  unfold isPowerOfTen at power
  split at power
  · rename_i scale same
    have positive : (0 : ℚ) < (ratioOfRank scale).den := by
      exact_mod_cast den_ratioOfRank_pos scale
    simp only [Bool.and_eq_true, Bool.or_eq_true, decide_eq_true_eq] at power
    refine ⟨scale, same, ?_, fun few => ?_⟩
    · have close : (7 : ℚ) * (10 ^ places * (ratioOfRank scale).den) ≤
          8 * (ratioOfRank scale).num := by exact_mod_cast power.1
      rw [← value_ratioOfRank, Ratio.value, le_div_iff₀ positive]
      linarith
    · have exact : ((ratioOfRank scale).num : ℚ) = 10 ^ places * (ratioOfRank scale).den := by
        exact_mod_cast power.2.resolve_left (by omega)
      rw [← value_ratioOfRank, Ratio.value, exact, mul_div_cancel_right₀ _ positive.ne']
  · cases power

/-! ## Moving halves up -/

theorem two_pow_le : (2 : ℚ) ^ 53 ≤ 2 ^ 1023 := pow_le_pow_right₀ one_le_two (by omega)

theorem raiseHalf_of_not_halfway (apart : isHalfway rank places = false) :
    raiseHalf rank places = rank := by
  simp [raiseHalf, apart]

theorem raiseHalf_of_hidden {scale : Double} (power : (ofInt 10).pow places = scale)
    (hidden : ((finite false rank).mul scale).halfAbove? = none) :
    raiseHalf rank places = rank := by
  unfold raiseHalf
  simp only [power, hidden]

theorem raiseHalf_of_shown {scale : Double} {raised : Fin ranks}
    (power : (ofInt 10).pow places = scale)
    (shown : ((finite false rank).mul scale).halfAbove? = some n)
    (halfway : isHalfway rank places = true)
    (moved : (ofInt (n + 1)).div scale = .finite false raised) :
    raiseHalf rank places = raised := by
  -- Were the quotient not a name of its own, checking the proof would compute it.
  obtain ⟨quotient, same⟩ : ∃ quotient : ℕ → Double,
      ∀ below : ℕ, (ofInt (below + 1)).div scale = quotient below := ⟨_, fun _ => rfl⟩
  rw [same] at moved
  unfold raiseHalf
  simp only [power, same]
  rw [shown, halfway]
  simp only [moved]

/-- Up to `2 ^ 52` units there are so few places that the scale is exact. -/
theorem places_le (half : magnitude rank * 10 ^ places = n + 1 / 2) (few : n < 2 ^ 52) :
    places ≤ 22 := by
  by_contra many
  have factor := five_pow_le half
  have : 5 ^ 23 ≤ 5 ^ places := Nat.pow_le_pow_right (by omega) (by omega)
  omega

theorem two_zpow_le (few : places ≤ 22) : (2 : ℚ) ^ (-1022 : ℤ) ≤ 1 / 10 ^ places := by
  rw [zpow_neg, one_div]
  gcongr
  calc (10 : ℚ) ^ places ≤ 10 ^ 22 := pow_le_pow_right₀ (by norm_num) few
    _ ≤ 2 ^ 88 := by norm_num
    _ ≤ 2 ^ 1022 := pow_le_pow_right₀ one_le_two (by omega)

theorem halfAbove?_mul (half : magnitude rank * 10 ^ places = n + 1 / 2) (few : n < 2 ^ 52)
    (exact : magnitude scale = 10 ^ places) :
    ((finite false rank).mul (.finite false scale)).halfAbove? = some n := by
  have value : magnitude rank * magnitude scale = n + 1 / 2 := by rw [exact, half]
  have spelled : magnitude rank * magnitude scale = (2 * n + 1 : ℕ) * 2 ^ (-1 : ℤ) := by
    rw [value, zpow_neg_one]
    push_cast
    ring
  have small : magnitude rank * magnitude scale < 2 ^ 1023 := by
    refine lt_of_lt_of_le ?_ two_pow_le
    have : (n : ℚ) < 2 ^ 52 := by exact_mod_cast few
    rw [value]
    linarith
  obtain ⟨product, made, same⟩ :=
    exists_mul_eq_finite false false spelled (by omega) (by omega) small
  rw [made, halfAbove?_eq_some_iff, same, value]

/-- The error of a quotient is too small to be seen in units. -/
theorem nearestUnits_of_quotient {raised : Fin ranks}
    (error : |n / 10 ^ places - magnitude raised| < n / 10 ^ places / 2 ^ 53) (few : n ≤ 2 ^ 52) :
    nearestUnits raised places = n := by
  have ten : (0 : ℚ) < 10 ^ places := by positivity
  have few : (n : ℚ) ≤ 2 ^ 52 := by exact_mod_cast few
  refine nearestUnits_eq ?_
  have scaled : magnitude raised * 10 ^ places - n =
      -((n / 10 ^ places - magnitude raised) * 10 ^ places) := by
    field_simp
    ring
  rw [scaled, abs_neg, abs_mul, abs_of_pos ten]
  calc _ < n / 10 ^ places / 2 ^ 53 * (10 : ℚ) ^ places := by gcongr
    _ = n / 2 ^ 53 := by field_simp
    _ ≤ 1 / 2 := by
        rw [div_le_iff₀ (by positivity)]
        linarith

/-- A half that shows is moved up, and the rounding of the quotient does not hide it. -/
theorem units_of_half (half : magnitude rank * 10 ^ places = n + 1 / 2) (few : n < 2 ^ 52) :
    units rank places = n + 1 := by
  have fewPlaces := places_le half few
  have bounded : places ≤ NumberStyle.maxPlaces := fewPlaces.trans (by decide)
  obtain ⟨scale, power, -, exact⟩ := exists_pow_eq_finite bounded
  have exact := exact fewPlaces
  have ten : (1 : ℚ) ≤ 10 ^ places := one_le_pow₀ (by norm_num)
  have positive : 0 < magnitude scale := by rw [exact]; positivity
  obtain ⟨next, integer, above⟩ := exists_ofInt_eq_finite (show n + 1 < 2 ^ 53 by omega)
  have value : magnitude next / magnitude scale = (n + 1 : ℕ) / 10 ^ places := by
    rw [above, exact]
  have least : (1 : ℚ) ≤ (n + 1 : ℕ) := by exact_mod_cast Nat.succ_pos n
  have normal : 2 ^ (-1022 : ℤ) ≤ magnitude next / magnitude scale := by
    rw [value]
    refine (two_zpow_le fewPlaces).trans ?_
    gcongr
  have small : magnitude next / magnitude scale < 2 ^ 1023 := by
    rw [value]
    refine lt_of_lt_of_le ?_ two_pow_le
    have : ((n + 1 : ℕ) : ℚ) ≤ 2 ^ 52 := by exact_mod_cast Nat.succ_le_of_lt few
    rw [div_lt_iff₀ (by positivity)]
    linarith
  obtain ⟨raised, moved, error⟩ := exists_div_eq_finite false false positive normal small
  have target : raiseHalf rank places = raised := by
    have integer : ofInt (n + 1) = .finite false next := by exact_mod_cast integer
    refine raiseHalf_of_shown power (halfAbove?_mul half few exact)
      (isHalfway_iff.mpr ⟨n, half⟩) ?_
    rw [integer, moved]
    rfl
  rw [value] at error
  rw [units, target]
  exact nearestUnits_of_quotient error (Nat.succ_le_of_lt few)

/-- A half among many units does not show: the product with the scale is rounded to a whole
number. -/
theorem halfAbove?_mul_of_great_half (half : magnitude rank * 10 ^ places = n + 1 / 2)
    (many : 2 ^ 52 ≤ n) (close : 7 / 8 * 10 ^ places ≤ magnitude scale)
    (exact : places ≤ 22 → magnitude scale = 10 ^ places) :
    ((finite false rank).mul (.finite false scale)).halfAbove? = none := by
  have large : 2 ^ 52 ≤ magnitude rank * magnitude scale := by
    have many : (2 : ℚ) ^ 52 ≤ n := by exact_mod_cast many
    rcases le_or_gt places 22 with few | above
    · rw [exact few, half]
      linarith
    · -- The scale is not exact, but with so many places there are more units.
      have factor : 5 ^ 23 ≤ 2 * n + 1 :=
        (Nat.pow_le_pow_right (by omega) above).trans (five_pow_le half)
      have factor : (5 : ℚ) ^ 23 ≤ 2 * n + 1 := by exact_mod_cast factor
      have nonneg : 0 ≤ magnitude rank := magnitude_nonneg rank
      calc (2 : ℚ) ^ 52 ≤ 7 / 8 * (n + 1 / 2) := by linarith
        _ = magnitude rank * (7 / 8 * 10 ^ places) := by
            rw [← half]
            ring
        _ ≤ magnitude rank * magnitude scale := by gcongr
  cases made : (finite false rank).mul (.finite false scale) with
  | nan => rfl
  | infinite negative => rfl
  | finite negative product =>
      obtain ⟨whole, same⟩ := magnitude_mul_whole made large
      rw [Option.eq_none_iff_forall_ne_some]
      intro below shown
      have half := halfAbove?_eq_some_iff.mp shown
      rw [same] at half
      have : 2 * whole = 2 * below + 1 := by
        have : (2 : ℚ) * whole = 2 * below + 1 := by linarith
        exact_mod_cast this
      omega

theorem raiseHalf_of_great_half (bounded : places ≤ NumberStyle.maxPlaces)
    (half : magnitude rank * 10 ^ places = n + 1 / 2) (many : 2 ^ 52 ≤ n) :
    raiseHalf rank places = rank := by
  obtain ⟨scale, power, close, exact⟩ := exists_pow_eq_finite bounded
  exact raiseHalf_of_hidden power (halfAbove?_mul_of_great_half half many close exact)

/-! ## The units that are shown -/

/-- The number of units is a nearest one. -/
theorem abs_sub_units_le (bounded : places ≤ NumberStyle.maxPlaces) (rank : Fin ranks) :
    |magnitude rank * 10 ^ places - units rank places| ≤ 1 / 2 := by
  cases halfway : isHalfway rank places with
  | false =>
      rw [units, raiseHalf_of_not_halfway halfway]
      exact abs_sub_nearestUnits_le rank places
  | true =>
      obtain ⟨n, half⟩ := isHalfway_iff.mp halfway
      rcases lt_or_ge n (2 ^ 52) with few | many
      · rw [units_of_half half few, half, abs_le]
        push_cast
        constructor <;> linarith
      · rw [units, raiseHalf_of_great_half bounded half many]
        exact abs_sub_nearestUnits_le rank places

/-- Halves among many units go to the even one. -/
theorem units_of_great_half (bounded : places ≤ NumberStyle.maxPlaces)
    (half : magnitude rank * 10 ^ places = n + 1 / 2) (many : 2 ^ 52 ≤ n) :
    units rank places % 2 = 0 := by
  rw [units, raiseHalf_of_great_half bounded half many]
  exact nearestUnits_even half

end Phrasebook.Double
