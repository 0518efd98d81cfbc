import Phrasebook.Proofs.Double.Nearest
import Phrasebook.Proofs.Double.PlainText

/-!
# Shortest decimals

The decimal that is written for a double is rounded to it (`nearest_shortest`), and no decimal with
fewer digits is (`digits_shortest_lt`). The basin of a rank holds the values whose nearest magnitude
it is (`holds_ofRank_iff`), and it has no holes; so of the decimals on a grid one of the two beside
the magnitude is in it if any is (`not_nearest_of_onGrid?`), and the search, which goes from the
coarsest grid to a grid that is finer than the doubles, ends with a decimal on the first grid that
has one (`exists_firstOnGrid`). Two consequences: a whole number up to `2 ^ 53` is its own shortest
decimal (`value_shortest_of_whole`), and so is a decimal of at most fifteen digits for the double
that it is rounded to (`value_shortest_of_few_digits`).
-/

namespace Phrasebook

theorem Ratio.floor_scaled_between {a : Ratio} (proper : 0 < a.den) (s : ℕ) :
    (a.num * Nat.pow 10 s / a.den : ℕ) ≤ a.value * 10 ^ s ∧
      a.value * 10 ^ s < (a.num * Nat.pow 10 s / a.den : ℕ) + 1 := by
  have scaled : (Ratio.mk (a.num * Nat.pow 10 s) a.den).value = a.value * 10 ^ s := by
    simp only [value, Nat.pow_eq, Nat.cast_mul, Nat.cast_pow, Nat.cast_ofNat]
    ring
  rw [← scaled]
  exact floor_between proper

namespace Double

open Decimal (ten_pos ten_add)

variable {rank : ℕ} {v : ℚ} {a : Ratio}

/-! ## Basins -/

/-- The distance from the magnitude before; it is half as long in front of a run, if there is a run
with a smaller unit. -/
theorem gap_before (rank : ℕ) :
    let x := dyadicOfRank (rank + 1)
    gap rank = if x.mantissa = 2 ^ 52 ∧ x.exponent ≠ -1074 then 2 ^ (x.exponent - 1)
      else 2 ^ x.exponent := by
  intro x
  rcases low_or_run (rank + 1) with low | ⟨run, place, inside, same⟩
  · have here : x = ⟨rank + 1, -1074⟩ := dyadicOfRank_low low
    rw [here, if_neg (by simp), gap, dyadicOfRank_low (by omega)]
  · have here : x = ⟨2 ^ 52 + place, run - 1074⟩ := by
      show dyadicOfRank (rank + 1) = _
      rw [same, dyadicOfRank_run inside]
    rw [here, gap]
    rcases Nat.eq_zero_or_pos place with rfl | later
    · rcases Nat.eq_zero_or_pos run with rfl | higher
      · rw [dyadicOfRank_low (by omega), if_neg (by simp)]
        rfl
      · obtain ⟨before, rfl⟩ := Nat.exists_eq_succ_of_ne_zero higher.ne'
        have last : rank = (before + 1) * 2 ^ 52 + (2 ^ 52 - 1) := by omega
        rw [last, dyadicOfRank_run (by omega), if_pos ⟨rfl, by simp only; omega⟩]
        congr 1
        simp only
        omega
    · have last : rank = (run + 1) * 2 ^ 52 + (place - 1) := by omega
      rw [last, dyadicOfRank_run (by omega), if_neg (by simp only; omega)]

theorem mantissa_dyadicOfRank_pos (rank : ℕ) : 0 < (dyadicOfRank (rank + 1)).mantissa := by
  rcases low_or_run (rank + 1) with low | ⟨run, place, inside, same⟩
  · rw [dyadicOfRank_low low]
    exact Nat.succ_pos rank
  · rw [same, dyadicOfRank_run inside]
    simp only
    omega

theorem unit_eq_four_mul (e : ℤ) : (2 : ℚ) ^ e = 4 * 2 ^ (e - 2) := by
  conv_lhs => rw [show e = 2 + (e - 2) by omega, Dyadic.unit_add]
  norm_num

theorem unit_pred_eq_two_mul (e : ℤ) : (2 : ℚ) ^ (e - 1) = 2 * 2 ^ (e - 2) := by
  rw [show e - 1 = 1 + (e - 2) by omega, Dyadic.unit_add, zpow_one]

theorem value_low_ofRank (rank : ℕ) : (Basin.ofRank (rank + 1)).low.value = middle rank := by
  have previous := gap_before rank
  have positive := mantissa_dyadicOfRank_pos rank
  have next : level (rank + 1) = level rank + gap rank := level_succ rank
  have half : middle rank = level (rank + 1) - gap rank / 2 := by
    rw [middle]
    linarith
  rw [half]
  simp only [Basin.ofRank, Ratio.value_mul, Ratio.value_whole, Ratio.value_power, level,
    Dyadic.value] at previous ⊢
  generalize dyadicOfRank (rank + 1) = x at previous positive ⊢
  simp only [Nat.pow_eq, Bool.and_eq_true, decide_eq_true_eq, bne_iff_ne]
  rw [previous]
  split
  · rw [Nat.cast_sub (by omega), unit_eq_four_mul, unit_pred_eq_two_mul]
    push_cast
    ring
  · rw [Nat.cast_sub (by omega), unit_eq_four_mul]
    push_cast
    ring

theorem value_high_ofRank (rank : ℕ) : (Basin.ofRank rank).high.value = middle rank := by
  rw [middle, level_succ]
  simp only [Basin.ofRank, Ratio.value_mul, Ratio.value_whole, Ratio.value_power, level, gap,
    Dyadic.value]
  rw [unit_eq_four_mul]
  push_cast
  ring

theorem mantissa_mod_two (rank : ℕ) : (dyadicOfRank rank).mantissa % 2 = rank % 2 := by
  rcases low_or_run rank with low | ⟨run, place, inside, rfl⟩
  · rw [dyadicOfRank_low low]
  · rw [dyadicOfRank_run inside]
    simp only
    omega

/-- The basin of a rank holds the values whose nearest magnitude it is. -/
theorem holds_ofRank_iff (proper : 0 < a.den) :
    (Basin.ofRank (rank + 1)).holds a = true ↔ Nearest a.value (rank + 1) := by
  have low : 0 < (Basin.ofRank (rank + 1)).low.den :=
    Nat.mul_pos Nat.one_pos (Ratio.den_power_pos (by omega) _)
  have high : 0 < (Basin.ofRank (rank + 1)).high.den :=
    Nat.mul_pos Nat.one_pos (Ratio.den_power_pos (by omega) _)
  have closed : (Basin.ofRank (rank + 1)).closed = decide ((rank + 1) % 2 = 0) := by
    rw [← mantissa_mod_two]
    rfl
  rw [nearest_iff_between, ← value_low_ofRank, ← value_high_ofRank, Basin.holds, closed]
  split <;> rename_i even <;>
    simp only [decide_eq_true_eq] at even <;>
    simp [even, Ratio.le_iff, Ratio.lt_iff, low, high, proper]

/-- The basin has no holes. -/
theorem Nearest.of_between {u w : ℚ} (one : Nearest u (rank + 1)) (another : Nearest w (rank + 1))
    (above : u ≤ v) (below : v ≤ w) : Nearest v (rank + 1) := by
  rw [nearest_iff_between] at *
  split at one
  · rename_i even
    rw [if_pos even] at another ⊢
    exact ⟨one.1.trans above, below.trans another.2⟩
  · rename_i odd
    rw [if_neg odd] at another ⊢
    exact ⟨one.1.trans_le above, below.trans_lt another.2⟩

theorem gap_bounds (rank : ℕ) : 2 ^ (dyadicOfRank (rank + 1)).exponent / 2 ≤ gap rank ∧
    gap rank ≤ 2 ^ (dyadicOfRank (rank + 1)).exponent := by
  have unit := Dyadic.unit_pos (dyadicOfRank (rank + 1)).exponent
  rw [gap_before]
  split
  · rw [zpow_sub_one₀ two_ne_zero]
    constructor <;> linarith
  · constructor <;> linarith

/-- A value that is less than a quarter of the unit away is rounded to the magnitude. -/
theorem nearest_of_close
    (close : |v - level (rank + 1)| < 2 ^ (dyadicOfRank (rank + 1)).exponent / 4) :
    Nearest v (rank + 1) := by
  obtain ⟨before, -⟩ := gap_bounds rank
  have after : 2 ^ (dyadicOfRank (rank + 1)).exponent = gap (rank + 1) := rfl
  obtain ⟨above, below⟩ := abs_lt.mp close
  have low : middle rank < v := by
    rw [middle]
    linarith [level_succ rank]
  have high : v < middle (rank + 1) := by
    rw [middle]
    linarith [level_succ (rank + 1)]
  rw [nearest_iff_between]
  split
  · exact ⟨low.le, high.le⟩
  · exact ⟨low, high⟩

/-! ## Grids -/

section Grid

variable {tie : Tie} {basin : Basin} {x : Decimal} {e : ℤ}

theorem den_div_power_pos (proper : 0 < a.den) (e : ℤ) : 0 < (a.div (.power 10 e)).den :=
  Nat.mul_pos proper (Ratio.num_power_pos (by omega) e)

/-- The multiple of a power of ten below a fraction. -/
theorem below_between (proper : 0 < a.den) (e : ℤ) :
    let steps := a.div (.power 10 e)
    ((steps.num / steps.den : ℕ) : ℚ) * 10 ^ e ≤ a.value ∧
      a.value < ((steps.num / steps.den : ℕ) + 1) * 10 ^ e := by
  have floor := Ratio.floor_between (den_div_power_pos proper e)
  rw [Ratio.value_div, Ratio.value_power, Nat.cast_ofNat, le_div_iff₀ (ten_pos e),
    div_lt_iff₀ (ten_pos e)] at floor
  exact floor

theorem holds_of_onGrid? (found : onGrid? tie basin a e = some x) :
    x.exponent = e ∧ basin.holds x.toRatio = true ∧
      x.digits ≤ (a.div (.power 10 e)).num / (a.div (.power 10 e)).den + 1 := by
  unfold onGrid? at found
  simp only at found
  split at found
  · rename_i lower upper
    split at found <;> cases found
    · exact ⟨rfl, lower, Nat.le_succ _⟩
    · exact ⟨rfl, upper, le_rfl⟩
  · rename_i lower _
    cases found
    exact ⟨rfl, lower, Nat.le_succ _⟩
  · rename_i _ upper
    cases found
    exact ⟨rfl, upper, le_rfl⟩
  · cases found

theorem onGrid?_eq_none_iff : onGrid? tie basin a e = none ↔
    let below := (a.div (.power 10 e)).num / (a.div (.power 10 e)).den
    basin.holds (Decimal.toRatio ⟨below, e⟩) = false ∧
      basin.holds (Decimal.toRatio ⟨below + 1, e⟩) = false := by
  unfold onGrid?
  simp only
  split
  · rename_i lower upper
    simp only [lower, upper]
    split <;> simp
  all_goals
    rename_i lower upper
    simp [lower, upper]

/-- What is found on a grid is rounded to the magnitude, and less than one step above it. -/
theorem nearest_of_onGrid? (proper : 0 < a.den)
    (found : onGrid? tie (.ofRank (rank + 1)) a e = some x) :
    x.exponent = e ∧ Nearest x.value (rank + 1) ∧ x.value ≤ a.value + 10 ^ e := by
  obtain ⟨rfl, inside, digits⟩ := holds_of_onGrid? found
  rw [holds_ofRank_iff x.den_toRatio_pos, Decimal.value_toRatio] at inside
  refine ⟨rfl, inside, ?_⟩
  have digits : (x.digits : ℚ) ≤ _ := Nat.cast_le.mpr digits
  calc x.value
      ≤ _ := mul_le_mul_of_nonneg_right digits (ten_pos _).le
    _ ≤ a.value + 10 ^ x.exponent := by
        push_cast
        rw [add_one_mul]
        exact add_le_add_left (below_between proper _).1 _

/-- If nothing is found on a grid, no decimal on it is rounded to the magnitude: the basin holds the
magnitude, and it has no holes. -/
theorem not_nearest_of_onGrid? (proper : 0 < a.den) (own : a.value = level (rank + 1))
    (missed : onGrid? tie (.ofRank (rank + 1)) a e = none) (k : ℕ) :
    ¬ Nearest (k * 10 ^ e) (rank + 1) := by
  intro inside
  obtain ⟨lower, upper⟩ := onGrid?_eq_none_iff.mp missed
  obtain ⟨below, above⟩ := below_between proper e
  generalize (a.div (.power 10 e)).num / (a.div (.power 10 e)).den = floor at *
  rw [← Bool.not_eq_true, holds_ofRank_iff (Decimal.den_toRatio_pos _), Decimal.value_toRatio]
    at lower upper
  have center : Nearest a.value (rank + 1) := own ▸ nearest_level _
  rcases Nat.lt_or_ge floor k with greater | smaller
  · refine upper (center.of_between inside ?_ ?_)
    · simpa [Decimal.value] using above.le
    · refine mul_le_mul_of_nonneg_right ?_ (ten_pos e).le
      exact_mod_cast greater
  · refine lower (inside.of_between center ?_ below)
    refine mul_le_mul_of_nonneg_right ?_ (ten_pos e).le
    exact_mod_cast smaller

end Grid

/-! ## The search -/

/-- What a search among the grids below `10 ^ top` finds for a magnitude, from the grid with one
digit on: a decimal on the first grid that has one in the basin. -/
structure FirstOnGrid (rank : ℕ) (top : ℤ) (count : ℕ) (x : Decimal) : Prop where
  exponent_eq : x.exponent = top - count
  digits_le : x.digits ≤ 10 ^ count
  nearest : Nearest x.value rank
  first : ∀ fewer, 0 < fewer → fewer < count → ∀ k : ℕ, ¬ Nearest (k * 10 ^ (top - fewer)) rank

section Search

variable {tie : Tie} {top : ℤ} {count : ℕ} {x : Decimal}

theorem digits_le_of_value (small : v < 10 ^ top) (grid : x.exponent = top - count)
    (close : x.value ≤ v + 10 ^ x.exponent) : x.digits ≤ 10 ^ count := by
  have shifted : (10 : ℚ) ^ top = 10 ^ count * 10 ^ x.exponent := by
    rw [grid, ← zpow_natCast, ← ten_add]
    congr 1
    omega
  have less : (x.digits : ℚ) * 10 ^ x.exponent < (10 ^ count + 1) * 10 ^ x.exponent := by
    calc (x.digits : ℚ) * 10 ^ x.exponent
        ≤ v + 10 ^ x.exponent := close
      _ < 10 ^ count * 10 ^ x.exponent + 10 ^ x.exponent := by rw [← shifted]; gcongr
      _ = (10 ^ count + 1) * 10 ^ x.exponent := by ring
  have less := lt_of_mul_lt_mul_right less (ten_pos _).le
  exact Nat.lt_succ_iff.mp (by exact_mod_cast less)

/-- Eighteen digits are finer than the doubles. -/
theorem ten_pow_lt_unit (large : 10 ^ (top - 1) ≤ level rank) (fine : 18 ≤ count) :
    (10 : ℚ) ^ (top - count) / 2 < 2 ^ (dyadicOfRank rank).exponent / 4 := by
  have few : ((dyadicOfRank rank).mantissa : ℚ) < 2 ^ 53 := by
    exact_mod_cast mantissa_dyadicOfRank_lt rank
  have shifted : (10 : ℚ) ^ (top - 18) * 10 ^ 17 = 10 ^ (top - 1) := by
    rw [← zpow_natCast, ← ten_add]
    congr 1
    omega
  have finer : (10 : ℚ) ^ (top - count) ≤ 10 ^ (top - 18) :=
    zpow_le_zpow_right₀ (by norm_num) (by omega)
  have unit := Dyadic.unit_pos (dyadicOfRank rank).exponent
  have bound : level rank < 2 ^ 53 * 2 ^ (dyadicOfRank rank).exponent :=
    mul_lt_mul_of_pos_right few unit
  linarith

/-- The last resort of the search is rounded to the magnitude as well. -/
theorem nearest_rounded (proper : 0 < a.den) (own : a.value = level (rank + 1))
    (large : 10 ^ (top - 1) ≤ a.value) (fine : 18 ≤ count) :
    let rounded : Decimal := ⟨(a.div (.power 10 (top - count))).nearest, top - count⟩
    Nearest rounded.value (rank + 1) ∧ rounded.value ≤ a.value + 10 ^ rounded.exponent := by
  intro rounded
  have positive := ten_pos (top - count)
  have near := Ratio.abs_sub_nearest_le (den_div_power_pos proper (top - count))
  have distance : |rounded.value - a.value| ≤ 10 ^ (top - count) / 2 := by
    rw [Ratio.value_div, Ratio.value_power, Nat.cast_ofNat] at near
    have scaled := mul_le_mul_of_nonneg_right near positive.le
    rw [← abs_of_pos positive, ← abs_mul, abs_of_pos positive, sub_mul,
      div_mul_cancel₀ _ positive.ne', abs_sub_comm] at scaled
    calc |rounded.value - a.value| ≤ 1 / 2 * 10 ^ (top - count) := scaled
      _ = 10 ^ (top - count) / 2 := by ring
  refine ⟨nearest_of_close ?_, ?_⟩
  · rw [← own]
    exact distance.trans_lt (ten_pow_lt_unit (own ▸ large) fine)
  · have above := (abs_le.mp distance).2
    show rounded.value ≤ a.value + 10 ^ (top - (count : ℤ))
    linarith

/-- The search ends with the first grid that has a decimal in the basin. The induction is on the
grids that are left; those before have none, and a grid that is missed joins them. -/
theorem exists_firstOnGrid (tie : Tie) {bound : ℕ} (proper : 0 < a.den)
    (own : a.value = level (rank + 1)) (large : 10 ^ (top - 1) ≤ a.value)
    (small : a.value < 10 ^ top) (enough : 18 ≤ bound + count)
    (first : ∀ fewer, 0 < fewer → fewer < count →
      ∀ k : ℕ, ¬ Nearest (k * 10 ^ (top - fewer)) (rank + 1)) :
    ∃ used, FirstOnGrid (rank + 1) top used
      (shortestWithin tie (.ofRank (rank + 1)) a top bound count) := by
  induction bound generalizing count with
  | zero =>
      have fine : 18 ≤ count := by omega
      obtain ⟨nearest, close⟩ := nearest_rounded proper own large fine
      exact ⟨count, rfl, digits_le_of_value small rfl close, nearest, first⟩
  | succ bound ih =>
      unfold shortestWithin
      cases grid : onGrid? tie (.ofRank (rank + 1)) a (top - count) with
      | some x =>
          obtain ⟨exponent, nearest, close⟩ := nearest_of_onGrid? proper grid
          rw [← exponent] at close
          exact ⟨count, exponent, digits_le_of_value small exponent close, nearest, first⟩
      | none =>
          refine ih (by omega) fun fewer positive less => ?_
          rcases Nat.lt_succ_iff_lt_or_eq.mp less with before | rfl
          · exact first fewer positive before
          · exact not_nearest_of_onGrid? proper own grid

/-- The power of ten above a fraction. -/
theorem decimalTopWithin_between (proper : 0 < a.den) {places : ℕ}
    (least : 10 ^ (-places : ℤ) ≤ a.value) :
    10 ^ (decimalTopWithin places a - 1) ≤ a.value ∧ a.value < 10 ^ decimalTopWithin places a := by
  have ten : (0 : ℚ) < 10 ^ places := by positivity
  obtain ⟨below, above⟩ := Ratio.floor_scaled_between proper places
  unfold decimalTopWithin
  generalize a.num * Nat.pow 10 places / a.den = n at below above ⊢
  have positive : n ≠ 0 := by
    rintro rfl
    rw [zpow_neg, zpow_natCast, inv_le_iff_one_le_mul₀ ten] at least
    have := least.trans_lt above
    norm_num at this
  obtain ⟨count, length⟩ := Nat.exists_eq_add_of_lt (Nat.length_toDigits_pos (b := 10) (n := n))
  rw [length]
  have few : n < 10 ^ (count + 1) :=
    (Nat.length_toDigits_le_iff (by omega) (by omega)).mp (by omega)
  have many : 10 ^ count ≤ n := by
    rcases Nat.eq_zero_or_pos count with rfl | more
    · exact Nat.one_le_iff_ne_zero.mpr positive
    · refine not_lt.mp fun few => ?_
      have := (Nat.length_toDigits_le_iff (b := 10) (by omega) more).mpr few
      omega
  have few : (n : ℚ) + 1 ≤ 10 ^ (count + 1) := by exact_mod_cast few
  have many : (10 : ℚ) ^ count ≤ n := by exact_mod_cast many
  constructor
  · rw [show ((0 + count + 1 : ℕ) : ℤ) - places - 1 = count - places by omega,
      zpow_sub₀ (by norm_num), zpow_natCast, zpow_natCast, div_le_iff₀ ten]
    exact many.trans below
  · rw [zpow_sub₀ (by norm_num), zpow_natCast, zpow_natCast, lt_div_iff₀ ten, Nat.zero_add]
    exact above.trans_le few

end Search

/-! ## The shortest decimal -/

section Shortest

theorem ten_pow_neg_le (places : ℕ) : (10 : ℚ) ^ (-places : ℤ) ≤ 2 ^ (-(3 * places : ℕ) : ℤ) := by
  rw [zpow_neg, zpow_neg, zpow_natCast, zpow_natCast, pow_mul]
  gcongr
  norm_num

theorem least_le_level (rank : ℕ) : (10 : ℚ) ^ (-(400 : ℕ) : ℤ) ≤ level (rank + 1) := by
  have first : level 1 = 2 ^ (-1074 : ℤ) := by
    rw [level, dyadicOfRank_low (by omega), Dyadic.value, Nat.cast_one, one_mul]
  calc (10 : ℚ) ^ (-(400 : ℕ) : ℤ)
      ≤ 2 ^ (-(3 * 400 : ℕ) : ℤ) := ten_pow_neg_le 400
    _ ≤ 2 ^ (-1074 : ℤ) := Dyadic.unit_le (by omega)
    _ = level 1 := first.symm
    _ ≤ level (rank + 1) := level_strictMono.monotone (by omega)

variable {rank : Fin ranks}

theorem exists_firstOnGrid_shortest (tie : Tie) (positive : rank.val ≠ 0) :
    ∃ top count x, 10 ^ (top - 1) ≤ magnitude rank ∧ magnitude rank < 10 ^ top ∧
      FirstOnGrid rank top count x ∧ shortest tie rank = x.trimmed := by
  obtain ⟨before, after⟩ := Nat.exists_eq_add_one_of_ne_zero positive
  have own : (ratioOfRank rank).value = level (before + 1) := by
    rw [value_ratioOfRank, ← level_val, after]
  have proper := den_ratioOfRank_pos rank
  obtain ⟨large, small⟩ : 10 ^ (decimalTop (ratioOfRank rank) - 1) ≤ (ratioOfRank rank).value ∧
      (ratioOfRank rank).value < 10 ^ decimalTop (ratioOfRank rank) :=
    decimalTopWithin_between proper (own ▸ least_le_level before)
  have enough : 18 ≤ 17 + 1 := le_rfl
  obtain ⟨count, found⟩ := exists_firstOnGrid tie proper own large small enough (by omega)
  rw [value_ratioOfRank] at large small
  refine ⟨_, count, _, large, small, after ▸ found, ?_⟩
  rw [shortest, if_neg positive, after]

theorem level_zero : level 0 = 0 := by
  rw [level, dyadicOfRank_low (by omega), Dyadic.value, Nat.cast_zero, zero_mul]

theorem not_nearest_zero (positive : rank.val ≠ 0) : ¬ Nearest 0 rank := fun nearest =>
  positive (Nat.le_zero.mp (nearest.le_of_le level_zero.ge))

theorem shortest_zero (tie : Tie) (zero : rank.val = 0) : (shortest tie rank).value = 0 := by
  rw [shortest, if_pos zero, Decimal.value, Nat.cast_zero, zero_mul]

/-- The shortest decimal is rounded to the magnitude that it is written for. -/
theorem nearest_shortest (tie : Tie) (rank : Fin ranks) :
    Nearest (shortest tie rank).value rank := by
  by_cases zero : rank.val = 0
  · rw [shortest_zero tie zero, zero, ← level_zero]
    exact nearest_level 0
  · obtain ⟨top, count, x, -, -, found, same⟩ := exists_firstOnGrid_shortest tie zero
    rw [same, x.value_trimmed]
    exact found.nearest

theorem digits_shortest_mod (tie : Tie) (positive : rank.val ≠ 0) :
    (shortest tie rank).digits % 10 ≠ 0 := by
  obtain ⟨top, count, x, -, -, found, same⟩ := exists_firstOnGrid_shortest tie positive
  rw [same]
  refine x.digits_trimmed_mod fun zero => not_nearest_zero positive ?_
  have nearest := found.nearest
  rwa [Decimal.value, zero, Nat.cast_zero, zero_mul] at nearest

/-- On every grid that is at least as fine as the digits of a decimal in the basin, there is a
multiple in the basin: the decimal itself, or the power of ten between it and the magnitude. -/
theorem exists_nearest_on_grid {top : ℤ} {few : ℕ} (large : 10 ^ (top - 1) ≤ magnitude rank)
    (small : magnitude rank < 10 ^ top) (positive : rank.val ≠ 0) {x : Decimal}
    (nearest : Nearest x.value rank) (digits : x.digits < 10 ^ few) (some : 0 < few) :
    ∃ k : ℕ, Nearest (k * 10 ^ (top - few)) rank := by
  obtain ⟨before, after⟩ := Nat.exists_eq_add_one_of_ne_zero positive
  have center : Nearest (magnitude rank) rank := nearest_level rank
  rw [after] at nearest center ⊢
  have power (j : ℕ) : ((10 ^ j : ℕ) : ℚ) * 10 ^ (top - few) = 10 ^ (top - few + j) := by
    rw [ten_add, zpow_natCast, mul_comm]
    push_cast
    rfl
  rcases le_or_gt (10 ^ top) x.value with above | below
  · refine ⟨10 ^ few, ?_⟩
    rw [power, show top - few + few = top by omega]
    exact center.of_between nearest small.le above
  rcases le_or_gt x.value (10 ^ (top - 1)) with under | inside
  · refine ⟨10 ^ (few - 1), ?_⟩
    rw [power, show top - few + (few - 1 : ℕ) = top - 1 by omega]
    exact nearest.of_between center under large
  · have coarser : top - few ≤ x.exponent := by
      have bound : x.value < 10 ^ (x.exponent + few) := by
        rw [Decimal.value, ten_add, zpow_natCast, mul_comm]
        refine mul_lt_mul_of_pos_left ?_ (ten_pos _)
        exact_mod_cast digits
      have := (zpow_lt_zpow_iff_right₀ (by norm_num)).mp (inside.trans bound)
      omega
    obtain ⟨k, same⟩ := Decimal.exists_value_eq coarser
    exact ⟨k, same ▸ nearest⟩

/-- No decimal with fewer digits is rounded to the magnitude. -/
theorem digits_shortest_lt (tie : Tie) (positive : rank.val ≠ 0) {x : Decimal} {few : ℕ}
    (nearest : Nearest x.value rank) (digits : x.digits < 10 ^ few) :
    (shortest tie rank).digits < 10 ^ few := by
  have some : 0 < few := by
    refine Nat.pos_of_ne_zero fun none => not_nearest_zero positive ?_
    rw [none, Nat.pow_zero, Nat.lt_one_iff] at digits
    rwa [Decimal.value, digits, Nat.cast_zero, zero_mul] at nearest
  have trimmed := digits_shortest_mod tie positive
  obtain ⟨top, count, y, large, small, found, same⟩ := exists_firstOnGrid_shortest tie positive
  rw [same] at trimmed ⊢
  have enough : count ≤ few := by
    by_contra fewer
    obtain ⟨k, hit⟩ := exists_nearest_on_grid large small positive nearest digits some
    exact found.first few some (not_le.mp fewer) k hit
  have bounded : y.trimmed.digits ≤ 10 ^ few :=
    y.digits_trimmed_le.trans (found.digits_le.trans (Nat.pow_le_pow_right (by omega) enough))
  refine bounded.lt_of_ne fun full => trimmed ?_
  rw [full]
  exact Nat.mod_eq_zero_of_dvd (dvd_pow_self 10 some.ne')

theorem plainNumeral_shortest (tie : Tie) (rank : Fin ranks) :
    PlainNumeral (shortest tie rank).value (positional (shortest tie rank)) := by
  refine plainNumeral_positional ?_
  by_cases zero : rank.val = 0
  · rw [shortest, if_pos zero]
    exact .inr le_rfl
  · exact .inl (digits_shortest_mod tie zero)

/-! ## Which decimals are the shortest ones -/

/-- The distance of a value from the magnitude that is nearest to it. -/
theorem abs_sub_level_le {before : ℕ} (nearest : Nearest v (before + 1)) :
    |v - level (before + 1)| ≤ 2 ^ (dyadicOfRank (before + 1)).exponent / 2 := by
  have unit := Dyadic.unit_pos (dyadicOfRank (before + 1)).exponent
  obtain ⟨-, near⟩ := gap_bounds before
  have far : gap (before + 1) = 2 ^ (dyadicOfRank (before + 1)).exponent := rfl
  have low := nearest.middle_le
  have high := nearest.le_middle
  rw [middle] at low high
  rw [abs_le]
  constructor <;> linarith [level_succ before, level_succ (before + 1)]

/-- Up to `2 ^ 53` the unit of a magnitude is at most one. -/
theorem exponent_nonpos (small : magnitude rank < 2 ^ 53) : (dyadicOfRank rank).exponent ≤ 0 := by
  by_contra large
  rcases low_or_run rank with low | ⟨run, place, inside, same⟩
  · rw [dyadicOfRank_low low] at large
    simp at large
  · rw [← level_val, level] at small
    rw [same, dyadicOfRank_run inside] at small large
    simp only [not_le] at large
    have unit : (2 : ℚ) ^ (1 : ℤ) ≤ 2 ^ ((run : ℤ) - 1074) := Dyadic.unit_le (by omega)
    have many : (2 : ℚ) ^ 52 ≤ (2 ^ 52 + place : ℕ) := by
      push_cast
      exact le_add_of_nonneg_right (Nat.cast_nonneg place)
    rw [zpow_one] at unit
    have product := mul_le_mul many unit (by norm_num) (Nat.cast_nonneg _)
    rw [Dyadic.value] at small
    linarith

/-- The shortest decimal of a whole number is whole: the grid of whole numbers has the number
itself, so no finer one is searched. -/
theorem exists_shortest_eq_natCast (tie : Tie) {n : ℕ} (whole : magnitude rank = n) (some : n ≠ 0) :
    ∃ k : ℕ, (shortest tie rank).value = k := by
  have positive : rank.val ≠ 0 := by
    rw [← magnitude_pos_iff, whole]
    exact_mod_cast Nat.pos_of_ne_zero some
  obtain ⟨top, count, x, -, small, found, same⟩ := exists_firstOnGrid_shortest tie positive
  have one : (1 : ℚ) ≤ n := by exact_mod_cast Nat.one_le_iff_ne_zero.mpr some
  have long : 0 < top := by
    refine (zpow_lt_zpow_iff_right₀ (a := (10 : ℚ)) (by norm_num)).mp ?_
    rw [zpow_zero]
    exact one.trans_lt (whole ▸ small)
  have nonneg : 0 ≤ x.exponent := by
    by_contra negative
    obtain ⟨places, rfl⟩ := Int.eq_ofNat_of_zero_le long.le
    have grid := found.exponent_eq
    refine found.first places (by omega) (by omega) n ?_
    rw [sub_self, zpow_zero, mul_one, ← whole]
    exact nearest_level rank
  obtain ⟨k, value⟩ := Decimal.exists_value_eq nonneg
  refine ⟨k, ?_⟩
  rw [same, x.value_trimmed, value, zpow_zero, mul_one]

/-- A whole number up to `2 ^ 53` is written as it is. -/
theorem value_shortest_of_whole (tie : Tie) {n : ℕ} (whole : magnitude rank = n)
    (few : n ≤ 2 ^ 53) : (shortest tie rank).value = n := by
  rcases Nat.eq_zero_or_pos n with rfl | some
  · have zero : rank.val = 0 := by
      by_contra positive
      have := magnitude_pos_iff.mpr positive
      rw [whole, Nat.cast_zero] at this
      exact this.ne rfl
    rw [shortest_zero tie zero, Nat.cast_zero]
  rcases few.lt_or_eq with less | rfl
  · have positive : rank.val ≠ 0 := by
      rw [← magnitude_pos_iff, whole]
      exact_mod_cast some
    obtain ⟨k, value⟩ := exists_shortest_eq_natCast tie whole some.ne'
    obtain ⟨before, after⟩ := Nat.exists_eq_add_one_of_ne_zero positive
    have nearest := nearest_shortest tie rank
    rw [value, after] at nearest
    have distance := abs_sub_level_le nearest
    rw [← after, level_val, whole] at distance
    have unit : (2 : ℚ) ^ (dyadicOfRank rank).exponent ≤ 2 ^ (0 : ℤ) :=
      Dyadic.unit_le (exponent_nonpos (by rw [whole]; exact_mod_cast less))
    rw [value, natCast_eq_of_abs_sub_lt_one (m := k) (n := n) (by linarith [zpow_zero (2 : ℚ)])]
  · -- The unit changes here.
    have place : rank = ⟨1076 * 2 ^ 52, by decide⟩ := by
      have same : level rank = level ((1075 + 1) * 2 ^ 52 + 0) := by
        rw [level_val, whole, level, dyadicOfRank_run (by omega), Dyadic.value]
        norm_num
      exact Fin.ext (level_strictMono.injective same)
    have spelled : shortest tie rank = ⟨2 ^ 53, 0⟩ := by
      rw [place]
      cases tie <;> decide +kernel
    rw [spelled, Decimal.value, zpow_zero, mul_one]

/-- A double that is a whole number up to `2 ^ 53` has the text of the number. -/
theorem plainText_of_whole {negative : Bool} {m : ℕ} (whole : magnitude rank = m)
    (few : m ≤ 2 ^ 53) :
    plainText (.finite negative rank) = String.ofList (signText negative ++ Nat.toDigits 10 m) := by
  have plain := plainNumeral_shortest .up rank
  rw [value_shortest_of_whole .up whole few] at plain
  rw [plainText, plain.text_unique (.of_natCast m)]

theorem normal_of_le (nearest : Nearest v rank) (large : 2 ^ (-1022 : ℤ) ≤ v) :
    2 ^ 52 ≤ rank.val := by
  refine nearest.ge_of_ge (le_of_eq_of_le ?_ large)
  have first : 2 ^ 52 = (0 + 1) * 2 ^ 52 + 0 := rfl
  rw [level, first, dyadicOfRank_run (by omega), Dyadic.value,
    show (-1022 : ℤ) = 52 + (-1074) from rfl, Dyadic.unit_add]
  norm_num

/-- From the first run on the magnitudes have 53 binary digits. -/
theorem unit_le_magnitude (normal : 2 ^ 52 ≤ rank.val) :
    2 ^ 52 * 2 ^ (dyadicOfRank rank).exponent ≤ magnitude rank := by
  have full : 2 ^ 52 ≤ (dyadicOfRank rank).mantissa := by
    rcases low_or_run rank with low | ⟨run, place, inside, same⟩
    · omega
    · rw [same, dyadicOfRank_run inside]
      exact Nat.le_add_right _ _
  have full : (2 : ℚ) ^ 52 ≤ (dyadicOfRank rank).mantissa := by exact_mod_cast full
  exact mul_le_mul_of_nonneg_right full (Dyadic.unit_pos _).le

/-- Decimals with at most fifteen digits are farther apart than the doubles. -/
theorem value_eq_of_few_digits (normal : 2 ^ 52 ≤ rank.val) {x y : Decimal}
    (one : Nearest x.value rank) (another : Nearest y.value rank) (few : x.digits < 10 ^ 15)
    (alsoFew : y.digits < 10 ^ 15) : x.value = y.value := by
  wlog finer : x.exponent ≤ y.exponent generalizing x y
  · exact (this another one alsoFew few (not_le.mp finer).le).symm
  obtain ⟨k, coarse⟩ := Decimal.exists_value_eq finer
  obtain ⟨before, after⟩ := Nat.exists_eq_add_one_of_ne_zero (show rank.val ≠ 0 by omega)
  have unit := Dyadic.unit_pos (dyadicOfRank rank).exponent
  have large := unit_le_magnitude normal
  have step := ten_pos x.exponent
  rw [after] at one another
  have near := abs_sub_level_le one
  have alsoNear := abs_sub_level_le another
  rw [← after, level_val] at near alsoNear
  have small : x.value < 10 ^ 15 * 10 ^ x.exponent := by
    rw [Decimal.value]
    gcongr
    exact_mod_cast few
  -- The step of the finer decimal is longer than the unit.
  have longer : 2 ^ (dyadicOfRank rank).exponent < (10 : ℚ) ^ x.exponent := by
    linarith [(abs_le.mp near).1]
  have close : |x.value - y.value| < 10 ^ x.exponent := by
    rw [abs_le] at near alsoNear
    rw [abs_lt]
    constructor <;> linarith
  rw [coarse, Decimal.value, ← sub_mul, abs_mul, abs_of_pos step,
    mul_lt_iff_lt_one_left step] at close
  rw [coarse, Decimal.value, natCast_eq_of_abs_sub_lt_one close]

/-- A decimal with at most fifteen digits is the shortest one of the double that it is rounded
to. -/
theorem value_shortest_of_few_digits (tie : Tie) (normal : 2 ^ 52 ≤ rank.val) {x : Decimal}
    (nearest : Nearest x.value rank) (few : x.digits < 10 ^ 15) :
    (shortest tie rank).value = x.value := by
  have positive : rank.val ≠ 0 := by omega
  exact value_eq_of_few_digits normal (nearest_shortest tie rank) nearest
    (digits_shortest_lt tie positive nearest few) few

end Shortest

end Double

end Phrasebook
