import Phrasebook.Proofs.Double.WholeNumbers

/-!
# Nearest doubles

The magnitudes in increasing order, each one gap above the one before (`level_succ`), and what it
means that one of them is nearest to a value (`Nearest`). Rounding finds the nearest one
(`nearest_of_rounds`), there is only one (`Nearest.unique`), and it is known from the two midpoints
between it and its neighbours (`nearest_iff_between`). Hence a double is made of a fraction exactly
if its magnitude is the nearest one (`ofRatio_eq_finite_iff`), and the nearest one to a whole number
up to `2 ^ 53` is the number itself (`Nearest.magnitude_eq`).
-/

namespace Phrasebook.Double

variable {rank other : ℕ} {u v : ℚ} {x : Dyadic}

/-! ## Magnitudes in their order -/

theorem dyadicOfRank_low (low : rank < 2 ^ 52) : dyadicOfRank rank = ⟨rank, -1074⟩ := by
  simp only [dyadicOfRank, Nat.pow_eq, if_pos low]

theorem dyadicOfRank_run {run place : ℕ} (inside : place < 2 ^ 52) :
    dyadicOfRank ((run + 1) * 2 ^ 52 + place) = ⟨2 ^ 52 + place, run - 1074⟩ := by
  have quotient : ((run + 1) * 2 ^ 52 + place) / 2 ^ 52 = run + 1 := by omega
  have rest : ((run + 1) * 2 ^ 52 + place) % 2 ^ 52 = place := by omega
  have high : ¬ (run + 1) * 2 ^ 52 + place < 2 ^ 52 := by omega
  simp only [dyadicOfRank, Nat.pow_eq, if_neg high, quotient, rest, Dyadic.mk.injEq, true_and]
  omega

/-- A rank is below the first run, or it has a place in a run. -/
theorem low_or_run (rank : ℕ) :
    rank < 2 ^ 52 ∨ ∃ run place, place < 2 ^ 52 ∧ rank = (run + 1) * 2 ^ 52 + place := by
  rcases lt_or_ge rank (2 ^ 52) with low | high
  · exact .inl low
  · exact .inr ⟨rank / 2 ^ 52 - 1, rank % 2 ^ 52, by omega, by omega⟩

theorem mantissa_dyadicOfRank_lt (rank : ℕ) : (dyadicOfRank rank).mantissa < 2 ^ 53 := by
  rcases low_or_run rank with low | ⟨run, place, inside, rfl⟩
  · rw [dyadicOfRank_low low]
    exact low.trans (by omega)
  · rw [dyadicOfRank_run inside]
    simp only
    omega

theorem le_exponent_dyadicOfRank (rank : ℕ) : -1074 ≤ (dyadicOfRank rank).exponent := by
  rcases low_or_run rank with low | ⟨run, place, inside, rfl⟩
  · rw [dyadicOfRank_low low]
  · rw [dyadicOfRank_run inside]
    simp only
    omega

/-- The magnitude with a rank; beyond the last finite rank, the one that would have it if there were
no greatest exponent. -/
def level (rank : ℕ) : ℚ := (dyadicOfRank rank).value

/-- The distance from a magnitude to the next one. -/
def gap (rank : ℕ) : ℚ := 2 ^ (dyadicOfRank rank).exponent

theorem level_val (rank : Fin ranks) : level rank = magnitude rank := rfl

theorem gap_pos (rank : ℕ) : 0 < gap rank := Dyadic.unit_pos _

theorem value_succ (m : ℕ) (e : ℤ) :
    (Dyadic.mk (m + 1) e).value = (Dyadic.mk m e).value + 2 ^ e := by
  simp only [Dyadic.value]
  rw [Nat.cast_succ, add_one_mul]

theorem level_succ (rank : ℕ) : level (rank + 1) = level rank + gap rank := by
  unfold level gap
  rcases low_or_run rank with low | ⟨run, place, inside, rfl⟩
  · rw [dyadicOfRank_low low, ← value_succ]
    rcases Nat.lt_or_eq_of_le (Nat.succ_le_of_lt low) with next | last
    · rw [dyadicOfRank_low next]
    · have first : rank + 1 = (0 + 1) * 2 ^ 52 + 0 := by omega
      rw [first, dyadicOfRank_run (by omega)]
      rfl
  · rw [dyadicOfRank_run inside, ← value_succ]
    rcases Nat.lt_or_eq_of_le (Nat.succ_le_of_lt inside) with next | last
    · rw [Nat.add_assoc, dyadicOfRank_run next, Nat.add_assoc]
    · -- The last place of a run is followed by the first place of the next.
      have next : (run + 1) * 2 ^ 52 + place + 1 = (run + 1 + 1) * 2 ^ 52 + 0 := by omega
      have full : 2 ^ 52 + place + 1 = 2 * 2 ^ 52 := by omega
      have twice : ((run + 1 : ℕ) : ℤ) - 1074 = 1 + (run - 1074) := by omega
      rw [next, dyadicOfRank_run (by omega), full, twice]
      simp only [Dyadic.value]
      rw [Dyadic.unit_add]
      push_cast
      ring

theorem level_strictMono : StrictMono level :=
  strictMono_nat_of_lt_succ fun rank => by
    rw [level_succ]
    exact lt_add_of_pos_right _ (gap_pos rank)

theorem magnitude_injective : Function.Injective magnitude :=
  fun _ _ same => Fin.ext (level_strictMono.injective same)

/-! ## The nearest one -/

/-- No magnitude is nearer to a value than the one with this rank, and if another one is equally
near, the rank is even. -/
structure Nearest (v : ℚ) (rank : ℕ) : Prop where
  near : ∀ other, |v - level rank| ≤ |v - level other|
  even : ∀ other, |v - level rank| = |v - level other| → other = rank ∨ rank % 2 = 0

theorem nearest_level (rank : ℕ) : Nearest (level rank) rank where
  near := fun other => by
    rw [sub_self, abs_zero]
    exact abs_nonneg _
  even := fun other same => by
    rw [sub_self, abs_zero, eq_comm, abs_eq_zero, sub_eq_zero] at same
    exact .inl (level_strictMono.injective same.symm)

/-- Between a value and a whole number there is no nearer one than the nearest. -/
theorem abs_sub_le_of_near {t : ℚ} {m k : ℕ} (near : |t - m| ≤ 1 / 2) :
    |t - m| ≤ |t - k| ∧ (|t - m| = |t - k| → k = m ∨ |t - m| = 1 / 2) := by
  by_cases same : k = m
  · subst same
    exact ⟨le_rfl, fun _ => .inl rfl⟩
  · have apart : 1 ≤ |(m : ℚ) - k| := by
      have : (m : ℤ) - k ≠ 0 := by omega
      exact_mod_cast Int.one_le_abs this
    have split := abs_sub_le (m : ℚ) t k
    rw [abs_sub_comm (m : ℚ) t] at split
    exact ⟨by linarith, fun tie => .inr (by linarith)⟩

theorem level_rankOfDyadic (rounds : x.Rounds 53 (-1074) v) : level (rankOfDyadic x) = x.value :=
  value_dyadicOfRank_rankOfDyadic rounds.least_le rounds.mantissa_le
    (rounds.le_mantissa (by omega))

theorem rankOfDyadic_mod_two (x : Dyadic) : rankOfDyadic x % 2 = x.mantissa % 2 := by
  simp only [rankOfDyadic, Nat.pow_eq]
  omega

/-- A magnitude with a coarser unit is a multiple of the finer one. -/
theorem exists_level_eq {e : ℤ} (coarser : e ≤ (dyadicOfRank other).exponent) :
    ∃ k : ℕ, level other = k * 2 ^ e := by
  obtain ⟨j, steps⟩ := Int.eq_ofNat_of_zero_le (sub_nonneg.mpr coarser)
  refine ⟨(dyadicOfRank other).mantissa * 2 ^ j, ?_⟩
  rw [level, Dyadic.value, show (dyadicOfRank other).exponent = j + e by omega, Dyadic.unit_add,
    zpow_natCast]
  push_cast
  ring

/-- A magnitude with a finer unit than the one that a value is rounded to is below the value, and a
multiple of the coarser unit lies between them. -/
theorem exists_between_of_finer (rounds : x.Rounds 53 (-1074) v)
    (finer : (dyadicOfRank other).exponent < x.exponent) :
    ∃ k : ℕ, level other < k * 2 ^ x.exponent ∧ k * 2 ^ x.exponent ≤ v := by
  have least := le_exponent_dyadicOfRank other
  have first : ((2 ^ 52 : ℕ) : ℚ) * 2 ^ x.exponent = 2 ^ ((53 : ℕ) - 1 + x.exponent) := by
    rw [Dyadic.unit_add]
    norm_num
  refine ⟨2 ^ 52, ?_, first ▸ rounds.full.resolve_left (by omega)⟩
  have few : ((dyadicOfRank other).mantissa : ℚ) < 2 ^ 53 := by
    exact_mod_cast mantissa_dyadicOfRank_lt other
  calc level other
      < 2 ^ 53 * 2 ^ (dyadicOfRank other).exponent :=
        mul_lt_mul_of_pos_right few (Dyadic.unit_pos _)
    _ ≤ 2 ^ 53 * 2 ^ (x.exponent - 1) := by
        gcongr
        · norm_num
        · omega
    _ = (2 ^ 52 : ℕ) * 2 ^ x.exponent := by
        rw [zpow_sub₀ two_ne_zero]
        norm_num
        ring

/-- Rounding finds the nearest magnitude. -/
theorem nearest_of_rounds (rounds : x.Rounds 53 (-1074) v) : Nearest v (rankOfDyadic x) := by
  have unit := Dyadic.unit_pos x.exponent
  have scaled (k : ℕ) : |v - k * 2 ^ x.exponent| = |v / 2 ^ x.exponent - k| * 2 ^ x.exponent := by
    rw [← abs_of_pos unit, ← abs_mul, abs_of_pos unit, sub_mul, div_mul_cancel₀ v unit.ne']
  have distance : |v - level (rankOfDyadic x)| =
      |v / 2 ^ x.exponent - x.mantissa| * 2 ^ x.exponent := by
    rw [level_rankOfDyadic rounds]
    exact scaled x.mantissa
  -- No multiple of the unit is nearer.
  have multiple (k : ℕ) : |v - level (rankOfDyadic x)| ≤ |v - k * 2 ^ x.exponent| := by
    rw [distance, scaled]
    exact mul_le_mul_of_nonneg_right (abs_sub_le_of_near rounds.near).1 unit.le
  have farther {other : ℕ} (finer : (dyadicOfRank other).exponent < x.exponent) :
      |v - level (rankOfDyadic x)| < |v - level other| := by
    obtain ⟨k, above, below⟩ := exists_between_of_finer rounds finer
    refine (multiple k).trans_lt ?_
    rw [abs_of_nonneg (by linarith), abs_of_nonneg (by linarith)]
    linarith
  refine ⟨fun other => ?_, fun other tie => ?_⟩
  · rcases le_or_gt x.exponent (dyadicOfRank other).exponent with coarser | finer
    · obtain ⟨k, same⟩ := exists_level_eq coarser
      rw [same]
      exact multiple k
    · exact (farther finer).le
  · rcases le_or_gt x.exponent (dyadicOfRank other).exponent with coarser | finer
    · obtain ⟨k, same⟩ := exists_level_eq coarser
      rw [distance, same, scaled] at tie
      rcases (abs_sub_le_of_near rounds.near).2 (mul_right_cancel₀ unit.ne' tie) with rfl | half
      · refine .inl (level_strictMono.injective ?_)
        rw [same, level_rankOfDyadic rounds]
        rfl
      · exact .inr ((rankOfDyadic_mod_two x).trans (rounds.even half))
    · exact absurd tie (farther finer).ne

/-! ## Midpoints -/

/-- The value halfway between a magnitude and the next one. -/
def middle (rank : ℕ) : ℚ := (level rank + level (rank + 1)) / 2

theorem abs_sub_le_lower_iff {a b : ℚ} (less : a < b) : |v - b| ≤ |v - a| ↔ (a + b) / 2 ≤ v := by
  constructor
  · intro nearer
    rcases abs_cases (v - a) with ⟨left, _⟩ | ⟨left, _⟩ <;>
      rcases abs_cases (v - b) with ⟨right, _⟩ | ⟨right, _⟩ <;> linarith
  · intro above
    rcases abs_cases (v - a) with ⟨left, _⟩ | ⟨left, _⟩ <;>
      rcases abs_cases (v - b) with ⟨right, _⟩ | ⟨right, _⟩ <;> linarith

theorem abs_sub_le_upper_iff {a b : ℚ} (less : a < b) : |v - a| ≤ |v - b| ↔ v ≤ (a + b) / 2 := by
  constructor
  · intro nearer
    rcases abs_cases (v - a) with ⟨left, _⟩ | ⟨left, _⟩ <;>
      rcases abs_cases (v - b) with ⟨right, _⟩ | ⟨right, _⟩ <;> linarith
  · intro below
    rcases abs_cases (v - a) with ⟨left, _⟩ | ⟨left, _⟩ <;>
      rcases abs_cases (v - b) with ⟨right, _⟩ | ⟨right, _⟩ <;> linarith

theorem Nearest.le_middle (nearest : Nearest v rank) : v ≤ middle rank :=
  (abs_sub_le_upper_iff (level_strictMono (Nat.lt_succ_self rank))).mp (nearest.near _)

theorem Nearest.middle_le (nearest : Nearest v (rank + 1)) : middle rank ≤ v :=
  (abs_sub_le_lower_iff (level_strictMono (Nat.lt_succ_self rank))).mp (nearest.near _)

/-- Two ranks whose magnitudes are equally near are even, so a nearer one lies between them. -/
theorem Nearest.unique (one : Nearest v rank) (another : Nearest v other) : rank = other := by
  wlog less : rank < other generalizing rank other
  · rcases (not_lt.mp less).lt_or_eq with greater | same
    · exact (this another one greater).symm
    · exact same.symm
  have apart := level_strictMono less
  have tie := le_antisymm (one.near other) (another.near rank)
  have even := (one.even other tie).resolve_left less.ne'
  have alsoEven := (another.even rank tie.symm).resolve_left less.ne
  have between : level (rank + 1) < level other := level_strictMono (by omega)
  have halfway := (abs_sub_le_lower_iff apart).mp (another.near rank)
  have below := one.le_middle
  rw [middle] at below
  linarith

/-- A magnitude is the nearest one iff the value lies between the midpoints beside it, which belong
to the even ranks. -/
theorem nearest_iff_between : Nearest v (rank + 1) ↔
    if (rank + 1) % 2 = 0 then middle rank ≤ v ∧ v ≤ middle (rank + 1)
    else middle rank < v ∧ v < middle (rank + 1) := by
  have below := level_strictMono (Nat.lt_succ_self rank)
  have above := level_strictMono (Nat.lt_succ_self (rank + 1))
  constructor
  · intro nearest
    split
    · exact ⟨nearest.middle_le, nearest.le_middle⟩
    · rename_i odd
      refine ⟨nearest.middle_le.lt_of_ne fun same => ?_, nearest.le_middle.lt_of_ne fun same => ?_⟩
      · have tie := le_antisymm (nearest.near rank) ((abs_sub_le_upper_iff below).mpr same.ge)
        exact odd ((nearest.even rank tie).resolve_left (by omega))
      · have tie := le_antisymm (nearest.near _) ((abs_sub_le_lower_iff above).mpr same.ge)
        exact odd ((nearest.even _ tie).resolve_left (by omega))
  · intro between
    have closed : middle rank ≤ v ∧ v ≤ middle (rank + 1) := by
      split at between
      · exact between
      · exact ⟨between.1.le, between.2.le⟩
    refine ⟨fun other => ?_, fun other tie => ?_⟩
    · rcases lt_trichotomy other (rank + 1) with lower | rfl | upper
      · have le := level_strictMono.monotone (Nat.lt_succ_iff.mp lower)
        refine (abs_sub_le_lower_iff (level_strictMono lower)).mpr (le_trans ?_ closed.1)
        rw [middle]
        linarith
      · exact le_rfl
      · have le := level_strictMono.monotone (Nat.succ_le_of_lt upper)
        refine (abs_sub_le_upper_iff (level_strictMono upper)).mpr (closed.2.trans ?_)
        rw [middle]
        linarith
    · by_contra not
      obtain ⟨different, odd⟩ := not_or.mp not
      rw [if_neg odd, middle, middle] at between
      rcases lt_or_gt_of_ne different with lower | upper
      · have le := level_strictMono.monotone (Nat.lt_succ_iff.mp lower)
        have halfway := (abs_sub_le_upper_iff (level_strictMono lower)).mp tie.ge
        linarith [between.1]
      · have le := level_strictMono.monotone (Nat.succ_le_of_lt upper)
        have halfway := (abs_sub_le_lower_iff (level_strictMono upper)).mp tie.ge
        linarith [between.2]

/-- A value that is not above a magnitude is not rounded above it. -/
theorem Nearest.le_of_le (nearest : Nearest v rank) (below : v ≤ level other) : rank ≤ other := by
  by_contra greater
  have less := level_strictMono (not_le.mp greater)
  have halfway := (abs_sub_le_lower_iff less).mp (nearest.near other)
  linarith

/-- A value that is not below a magnitude is not rounded below it. -/
theorem Nearest.ge_of_ge (nearest : Nearest v rank) (above : level other ≤ v) : other ≤ rank := by
  by_contra smaller
  have less := level_strictMono (not_le.mp smaller)
  have halfway := (abs_sub_le_upper_iff less).mp (nearest.near other)
  linarith

/-! ## Doubles -/

variable {negative : Bool} {a : Ratio}

theorem exists_ofRatio_eq (negative : Bool) (proper : 0 < a.den) :
    ∃ rank, Nearest a.value rank ∧ ofRatio negative a = ofRank negative rank := by
  obtain ⟨x, rounds, same⟩ := ofRatio_eq_ofRank negative proper
  exact ⟨rankOfDyadic x, nearest_of_rounds rounds, same⟩

theorem ofRank_eq_finite_iff {finiteRank : Fin ranks} :
    ofRank negative rank = .finite negative finiteRank ↔ rank = finiteRank := by
  unfold ofRank
  split
  · rename_i bounded
    rw [Double.finite.injEq, Fin.ext_iff]
    exact and_iff_right rfl
  · rename_i unbounded
    refine ⟨nofun, fun same => absurd finiteRank.isLt ?_⟩
    rwa [← same]

/-- A fraction makes the double with the nearest magnitude, if there is a finite one. -/
theorem ofRatio_eq_finite_iff {finiteRank : Fin ranks} (proper : 0 < a.den) :
    ofRatio negative a = .finite negative finiteRank ↔ Nearest a.value finiteRank := by
  obtain ⟨rank, nearest, same⟩ := exists_ofRatio_eq negative proper
  rw [same, ofRank_eq_finite_iff]
  exact ⟨fun equal => equal ▸ nearest, nearest.unique⟩

/-- A fraction that is not above the greatest double makes a finite one. -/
theorem exists_nearest_of_le (negative : Bool) (proper : 0 < a.den)
    (below : a.value ≤ level (ranks - 1)) :
    ∃ rank : Fin ranks, ofRatio negative a = .finite negative rank ∧ Nearest a.value rank := by
  obtain ⟨rank, nearest, same⟩ := exists_ofRatio_eq negative proper
  have bounded : rank < ranks := Nat.lt_of_le_of_lt (nearest.le_of_le below) (by decide)
  exact ⟨⟨rank, bounded⟩, same.trans (ofRank_eq_finite_iff.mpr rfl), nearest⟩

/-! ## Whole numbers -/

section Whole

variable {rank : Fin ranks} {n : ℤ}

/-- A 64-bit number becomes the double with the nearest magnitude. -/
theorem exists_ofInt_nearest (n : Int64) :
    ∃ rank, ofInt n.toInt = .finite (decide (n.toInt < 0)) rank ∧ Nearest n.toInt.natAbs rank := by
  have small : n.toInt.natAbs < 2 ^ 1023 := by
    have bounded : n.toInt.natAbs < 2 ^ 64 := by
      have := n.le_toInt
      have := n.toInt_lt
      omega
    exact bounded.trans (pow_lt_pow_right₀ one_lt_two (by omega))
  obtain ⟨rank, -, made, -, -⟩ := exists_ofInt_rounds n.toInt small
  refine ⟨rank, made, ?_⟩
  rw [← Ratio.value_whole]
  exact (ofRatio_eq_finite_iff Nat.one_pos).mp made

/-- A whole number up to `2 ^ 53` is a double. -/
theorem exists_ofInt_eq_exact (few : n.natAbs ≤ 2 ^ 53) :
    ∃ rank, ofInt n = .finite (decide (n < 0)) rank ∧ magnitude rank = n.natAbs := by
  have small : n.natAbs < 2 ^ 1023 := few.trans_lt (pow_lt_pow_right₀ one_lt_two (by omega))
  obtain ⟨rank, shown, made, whole, rounded⟩ := exists_ofInt_eq_rounded n small
  exact ⟨rank, made, by rw [whole, rounded.eq_of_le few]⟩

theorem ofInt_eq_iff (few : n.natAbs ≤ 2 ^ 53) {negative : Bool} :
    ofInt n = .finite negative rank ↔
      negative = decide (n < 0) ∧ magnitude rank = n.natAbs := by
  obtain ⟨own, made, whole⟩ := exists_ofInt_eq_exact few
  rw [made, Double.finite.injEq, ← whole, magnitude_injective.eq_iff]
  exact and_congr eq_comm eq_comm

/-- A whole number up to `2 ^ 53` is the magnitude that is nearest to it. -/
theorem Nearest.magnitude_eq {n : ℕ} (nearest : Nearest n rank) (few : n ≤ 2 ^ 53) :
    magnitude rank = n := by
  obtain ⟨own, -, whole⟩ := exists_ofInt_eq_exact (n := n) (by rwa [Int.natAbs_natCast])
  rw [Int.natAbs_natCast] at whole
  have exact := nearest_level own
  rw [level_val, whole] at exact
  rw [Fin.ext (nearest.unique exact), whole]

end Whole

end Phrasebook.Double
