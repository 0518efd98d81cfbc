import Phrasebook.Proofs.Double.WholeNumbers

/-!
# Plain numerals

What a plain numeral is: the digits of a whole number, and behind a point, if there is more, digits
that do not end in zero (`PlainNumeral`). A numeral spells one number (`PlainNumeral.value_unique`)
and a number has one numeral (`PlainNumeral.text_unique`). A decimal without zeros at the end of its
digits is written as the plain numeral of its value (`plainNumeral_positional`).
-/

namespace Phrasebook

open Double

variable {m : ℚ} {n places : ℕ} {text other fraction digits : List Char}

/-! ## Digits -/

theorem digitChar_ne_zero (nonzero : n % 10 ≠ 0) : Nat.digitChar (n % 10) ≠ '0' := by
  have below := Nat.mod_lt n (show 0 < 10 by omega)
  generalize n % 10 = digit at nonzero below
  interval_cases digit <;> first | exact absurd rfl nonzero | decide

theorem getLast?_toDigits (n : ℕ) :
    (Nat.toDigits 10 n).getLast? = some (Nat.digitChar (n % 10)) := by
  rw [Nat.toDigits_eq_if (by omega)]
  split
  · rename_i small
    rw [Nat.mod_eq_of_lt small]
    rfl
  · exact List.getLast?_concat

theorem getLast?_paddedDigits (wide : places ≠ 0) (n : ℕ) :
    (paddedDigits places n).getLast? = some (Nat.digitChar (n % 10)) := by
  rw [paddedDigits, if_neg wide]
  simp [List.getLast?_append, getLast?_toDigits]

theorem paddedDigits_succ (small : n < 10 ^ (places + 1)) :
    paddedDigits (places + 1) n = paddedDigits places (n / 10) ++ [Nat.digitChar (n % 10)] := by
  rcases lt_or_ge n 10 with single | more
  · rw [Nat.div_eq_of_lt single, Nat.mod_eq_of_lt single, paddedDigits_zero, paddedDigits,
      if_neg (Nat.succ_ne_zero _), Nat.toDigits_of_lt_base single]
    rfl
  · have wide : places ≠ 0 := by
      rintro rfl
      omega
    have split : Nat.toDigits 10 n = Nat.toDigits 10 (n / 10) ++ [Nat.digitChar (n % 10)] :=
      Nat.toDigits_of_base_le (by omega) more
    rw [paddedDigits, paddedDigits, if_neg (Nat.succ_ne_zero _), if_neg wide, split]
    simp only [List.length_append, List.length_singleton, List.append_assoc]
    congr 2
    omega

/-- The digits of a number are those of its front part and of its last places. -/
theorem toDigits_eq_append (long : n / 10 ^ places ≠ 0) :
    Nat.toDigits 10 n =
      Nat.toDigits 10 (n / 10 ^ places) ++ paddedDigits places (n % 10 ^ places) := by
  induction places generalizing n with
  | zero => simp [paddedDigits]
  | succ places ih =>
      have more : 10 ≤ n := by
        by_contra single
        refine long (Nat.div_eq_of_lt ((not_le.mp single).trans_le ?_))
        exact Nat.le_self_pow (Nat.succ_ne_zero _) 10
      have front : n / 10 / 10 ^ places = n / 10 ^ (places + 1) := by
        rw [Nat.div_div_eq_div_mul, ← Nat.pow_succ']
      have last : n % 10 ^ (places + 1) / 10 = n / 10 % 10 ^ places := by
        rw [Nat.pow_succ', Nat.mod_mul_right_div_self]
      have digit : n % 10 ^ (places + 1) % 10 = n % 10 :=
        Nat.mod_mod_of_dvd n (dvd_pow_self 10 (Nat.succ_ne_zero _))
      rw [Nat.toDigits_of_base_le (by omega) more, ih (by rwa [front]), front, List.append_assoc,
        paddedDigits_succ (Nat.mod_lt _ (Nat.pow_pos (by omega))), last, digit]

theorem toDigits_mul_pow (nonzero : n ≠ 0) (places : ℕ) :
    Nat.toDigits 10 (n * 10 ^ places) = Nat.toDigits 10 n ++ zeros places := by
  have quotient : n * 10 ^ places / 10 ^ places = n :=
    Nat.mul_div_cancel n (Nat.pow_pos (by omega))
  have long : n * 10 ^ places / 10 ^ places ≠ 0 := by rwa [quotient]
  rw [toDigits_eq_append long, quotient, Nat.mul_mod_left, paddedDigits_zero]

/-! ## Numerals -/

/-- Digits behind a point; nothing, if there are none. -/
def pointed (fraction : List Char) : List Char :=
  if fraction = [] then [] else '.' :: fraction

/-- The parts of a plain numeral of a number: its whole part, written without zeros in front, and
the digits behind the point, which do not end in zero. -/
structure PlainNumeral.Parts (m : ℚ) (text : List Char) (whole : ℕ) (fraction : List Char) :
    Prop where
  text_eq : text = Nat.toDigits 10 whole ++ pointed fraction
  isDigit : ∀ c ∈ fraction, c.isDigit = true
  trimmed : fraction.getLast? ≠ some '0'
  value_eq : m = whole + Nat.ofDigitChars 10 fraction 0 / 10 ^ fraction.length

/-- A text is the plain numeral of a number that is not negative: without exponent, and without
zeros at the end of its fraction. -/
def PlainNumeral (m : ℚ) (text : List Char) : Prop :=
  ∃ whole fraction, PlainNumeral.Parts m text whole fraction

theorem isDigit_of_mem_toDigits {c : Char} (member : c ∈ Nat.toDigits 10 n) : c.isDigit = true :=
  Nat.isDigit_of_mem_toDigits (by omega) (by omega) member

theorem takeWhile_isDigit_pointed (n : ℕ) (fraction : List Char) :
    (Nat.toDigits 10 n ++ pointed fraction).takeWhile Char.isDigit = Nat.toDigits 10 n := by
  rw [List.takeWhile_append_of_pos fun c => isDigit_of_mem_toDigits]
  unfold pointed
  split
  · exact List.append_nil _
  · rw [List.takeWhile_cons_of_neg (by decide), List.append_nil]

theorem pointed_injective : Function.Injective pointed := by
  intro one another same
  unfold pointed at same
  split at same <;> split at same <;> simp_all

theorem ofDigitChars_concat (digits : List Char) (c : Char) :
    Nat.ofDigitChars 10 (digits ++ [c]) 0 =
      10 * Nat.ofDigitChars 10 digits 0 + (c.toNat - '0'.toNat) := by
  rw [Nat.ofDigitChars_append, Nat.ofDigitChars_cons, Nat.ofDigitChars_nil]

theorem toNat_of_isDigit {c : Char} (isDigit : c.isDigit = true) :
    '0'.toNat ≤ c.toNat ∧ c.toNat - '0'.toNat < 10 := by
  simp only [Char.isDigit, Bool.and_eq_true, decide_eq_true_eq, ge_iff_le, UInt32.le_iff_toNat_le]
    at isDigit
  have below : c.toNat ≤ 57 := isDigit.2
  have zero : '0'.toNat = 48 := rfl
  exact ⟨isDigit.1, by omega⟩

/-- A row of digits spells less than the power of ten with their number. -/
theorem ofDigitChars_lt (isDigit : ∀ c ∈ digits, c.isDigit = true) :
    Nat.ofDigitChars 10 digits 0 < 10 ^ digits.length := by
  induction digits using List.reverseRecOn with
  | nil => exact Nat.one_pos
  | append_singleton digits c ih =>
      have front := ih fun d member => isDigit d (List.mem_append_left _ member)
      have last := (toNat_of_isDigit (isDigit c (List.mem_append_right _ List.mem_cons_self))).2
      rw [ofDigitChars_concat, List.length_append, List.length_singleton, Nat.pow_succ]
      omega

/-- Rows of digits of one length that spell the same number are equal. -/
theorem digits_unique {others : List Char} (isDigit : ∀ c ∈ digits, c.isDigit = true)
    (alsoDigit : ∀ c ∈ others, c.isDigit = true) (length : digits.length = others.length)
    (value : Nat.ofDigitChars 10 digits 0 = Nat.ofDigitChars 10 others 0) : digits = others := by
  induction digits using List.reverseRecOn generalizing others with
  | nil => exact (List.length_eq_zero_iff.mp length.symm).symm
  | append_singleton digits c ih =>
      rcases List.eq_nil_or_concat others with rfl | ⟨others, d, rfl⟩
      · simp at length
      · rw [List.concat_eq_append] at *
        have last := toNat_of_isDigit (isDigit c (List.mem_append_right _ List.mem_cons_self))
        have alsoLast := toNat_of_isDigit (alsoDigit d (List.mem_append_right _ List.mem_cons_self))
        rw [ofDigitChars_concat, ofDigitChars_concat] at value
        rw [List.length_append, List.length_append] at length
        have front := ih (fun e member => isDigit e (List.mem_append_left _ member))
          (fun e member => alsoDigit e (List.mem_append_left _ member))
          (Nat.add_right_cancel length) (by omega)
        have same : c = d := Char.toNat_inj.mp (by omega)
        rw [front, same]

/-- A row of digits that does not end in zero is no longer than another one with its value. -/
theorem length_le_of_trimmed {others : List Char} (isDigit : ∀ c ∈ digits, c.isDigit = true)
    (trimmed : digits.getLast? ≠ some '0')
    (value : Nat.ofDigitChars 10 digits 0 * 10 ^ others.length =
      Nat.ofDigitChars 10 others 0 * 10 ^ digits.length) : digits.length ≤ others.length := by
  by_contra longer
  obtain ⟨k, more⟩ := Nat.exists_eq_add_of_lt (not_le.mp longer)
  rcases List.eq_nil_or_concat digits with rfl | ⟨front, c, rfl⟩
  · simp at longer
  · rw [List.concat_eq_append] at *
    have last := toNat_of_isDigit (isDigit c (List.mem_append_right _ List.mem_cons_self))
    have shifted : Nat.ofDigitChars 10 (front ++ [c]) 0 =
        10 * (Nat.ofDigitChars 10 others 0 * 10 ^ k) := by
      refine Nat.eq_of_mul_eq_mul_right (Nat.pow_pos (show 0 < 10 by omega)) (value.trans ?_)
      rw [more, Nat.pow_succ, Nat.pow_add]
      ring
    rw [ofDigitChars_concat] at shifted
    refine trimmed ((List.getLast?_concat).trans (congrArg some ?_))
    exact Char.toNat_inj.mp (by omega)

namespace PlainNumeral

/-- A numeral spells one number. -/
theorem value_unique {m other : ℚ} (one : PlainNumeral m text) (another : PlainNumeral other text) :
    m = other := by
  obtain ⟨whole, fraction, spelled, -, -, rfl⟩ := one
  obtain ⟨alsoWhole, alsoFraction, same, -, -, rfl⟩ := another
  rw [spelled] at same
  have front := congrArg (List.takeWhile Char.isDigit) same
  rw [takeWhile_isDigit_pointed, takeWhile_isDigit_pointed] at front
  obtain rfl : whole = alsoWhole := by
    rw [← Nat.ofDigitChars_ten_toDigits (n := whole), front, Nat.ofDigitChars_ten_toDigits]
  rw [pointed_injective (List.append_cancel_left same)]

/-- A number has one numeral. -/
theorem text_unique (one : PlainNumeral m text) (another : PlainNumeral m other) :
    text = other := by
  obtain ⟨whole, fraction, rfl, isDigit, trimmed, value⟩ := one
  obtain ⟨alsoWhole, alsoFraction, rfl, alsoDigit, alsoTrimmed, alsoValue⟩ := another
  have ten (length : ℕ) : (0 : ℚ) < 10 ^ length := by positivity
  have below : (Nat.ofDigitChars 10 fraction 0 : ℚ) / 10 ^ fraction.length < 1 := by
    rw [div_lt_one (ten _)]
    exact_mod_cast ofDigitChars_lt isDigit
  have alsoBelow : (Nat.ofDigitChars 10 alsoFraction 0 : ℚ) / 10 ^ alsoFraction.length < 1 := by
    rw [div_lt_one (ten _)]
    exact_mod_cast ofDigitChars_lt alsoDigit
  have least : (0 : ℚ) ≤ Nat.ofDigitChars 10 fraction 0 / 10 ^ fraction.length := by positivity
  have alsoLeast : (0 : ℚ) ≤ Nat.ofDigitChars 10 alsoFraction 0 / 10 ^ alsoFraction.length := by
    positivity
  obtain rfl : whole = alsoWhole := by
    refine natCast_eq_of_abs_sub_lt_one (abs_lt.mpr ?_)
    constructor <;> linarith
  have parts : (Nat.ofDigitChars 10 fraction 0 : ℚ) / 10 ^ fraction.length =
      Nat.ofDigitChars 10 alsoFraction 0 / 10 ^ alsoFraction.length := by linarith
  rw [div_eq_div_iff (ten _).ne' (ten _).ne'] at parts
  have parts : Nat.ofDigitChars 10 fraction 0 * 10 ^ alsoFraction.length =
      Nat.ofDigitChars 10 alsoFraction 0 * 10 ^ fraction.length := by exact_mod_cast parts
  have length : fraction.length = alsoFraction.length :=
    le_antisymm (length_le_of_trimmed isDigit trimmed parts)
      (length_le_of_trimmed alsoDigit alsoTrimmed parts.symm)
  rw [length] at parts
  have spelled := Nat.eq_of_mul_eq_mul_right (Nat.pow_pos (by omega)) parts
  rw [digits_unique isDigit alsoDigit length spelled]

theorem of_natCast (n : ℕ) : PlainNumeral n (Nat.toDigits 10 n) :=
  ⟨n, [], (List.append_nil _).symm, nofun, nofun, by simp⟩

/-- A numeral begins with a digit. -/
theorem head?_isDigit (plain : PlainNumeral m text) :
    ∃ c, text.head? = some c ∧ c.isDigit = true := by
  obtain ⟨whole, fraction, rfl, -, -, -⟩ := plain
  obtain ⟨c, rest, split⟩ := List.exists_cons_of_ne_nil (Nat.toDigits_ne_nil (b := 10) (n := whole))
  refine ⟨c, by rw [split]; rfl, isDigit_of_mem_toDigits (n := whole) ?_⟩
  rw [split]
  exact List.mem_cons_self

end PlainNumeral

/-! ## Decimals -/

namespace Decimal

variable {x : Decimal}

theorem ten_pos (e : ℤ) : (0 : ℚ) < 10 ^ e := zpow_pos (by norm_num) e

theorem ten_add (d e : ℤ) : (10 : ℚ) ^ (d + e) = 10 ^ d * 10 ^ e := zpow_add₀ (by norm_num) d e

def value (x : Decimal) : ℚ := x.digits * 10 ^ x.exponent

/-- A decimal lies on every finer grid. -/
theorem exists_value_eq {e : ℤ} (finer : e ≤ x.exponent) : ∃ k : ℕ, x.value = k * 10 ^ e := by
  obtain ⟨j, apart⟩ := Int.eq_ofNat_of_zero_le (sub_nonneg.mpr finer)
  refine ⟨x.digits * 10 ^ j, ?_⟩
  rw [value, show x.exponent = j + e by omega, ten_add, zpow_natCast]
  push_cast
  ring

@[simp] theorem value_toRatio (x : Decimal) : x.toRatio.value = x.value := by
  simp [toRatio, value]

theorem den_toRatio_pos (x : Decimal) : 0 < x.toRatio.den :=
  Nat.mul_pos Nat.one_pos (Ratio.den_power_pos (by omega) _)

/-- Factors ten of the digits may go into the exponent. -/
theorem value_div_ten (divisible : x.digits % 10 = 0) :
    value ⟨x.digits / 10, x.exponent + 1⟩ = x.value := by
  have digits : (x.digits : ℚ) = (x.digits / 10 : ℕ) * 10 := by
    exact_mod_cast (Nat.div_mul_cancel (Nat.dvd_of_mod_eq_zero divisible)).symm
  simp only [value]
  rw [digits, ten_add, zpow_one]
  ring

theorem value_trimmedWithin (bound : ℕ) (x : Decimal) :
    (trimmedWithin bound x).value = x.value := by
  induction bound generalizing x with
  | zero => rfl
  | succ bound ih =>
      unfold trimmedWithin
      split
      · rename_i divisible
        rw [ih, value_div_ten divisible]
      · rfl

theorem value_trimmed (x : Decimal) : x.trimmed.value = x.value := by
  unfold trimmed
  split
  · rfl
  · exact value_trimmedWithin _ x

theorem digits_trimmedWithin_le (bound : ℕ) (x : Decimal) :
    (trimmedWithin bound x).digits ≤ x.digits := by
  induction bound generalizing x with
  | zero => exact le_rfl
  | succ bound ih =>
      unfold trimmedWithin
      split
      · exact (ih _).trans (Nat.div_le_self _ _)
      · exact le_rfl

theorem digits_trimmed_le (x : Decimal) : x.trimmed.digits ≤ x.digits := by
  unfold trimmed
  split
  · exact le_rfl
  · exact digits_trimmedWithin_le _ x

/-- With one step for each binary digit, no zeros are left at the end. -/
theorem digits_trimmedWithin_mod {bound : ℕ} (nonzero : x.digits ≠ 0)
    (small : x.digits < 2 ^ (bound + 1)) : (trimmedWithin bound x).digits % 10 ≠ 0 := by
  induction bound generalizing x with
  | zero =>
      show x.digits % 10 ≠ 0
      omega
  | succ bound ih =>
      unfold trimmedWithin
      split
      · refine ih (x := ⟨x.digits / 10, x.exponent + 1⟩) ?_ ?_
        · simp only
          omega
        · rw [Nat.pow_succ] at small
          simp only
          omega
      · assumption

theorem digits_trimmed_mod (nonzero : x.digits ≠ 0) : x.trimmed.digits % 10 ≠ 0 := by
  rw [trimmed, if_neg nonzero]
  exact digits_trimmedWithin_mod nonzero Nat.lt_log2_self

end Decimal

namespace Double

theorem positional_whole (digits e : ℕ) :
    positional ⟨digits, e⟩ = Nat.toDigits 10 (digits * 10 ^ e) := by
  simp only [positional, Int.natCast_nonneg, if_true, Int.toNat_natCast]
  split
  · rename_i zero
    rw [zero, Nat.zero_mul, Nat.toDigits_zero]
  · rename_i nonzero
    exact (toDigits_mul_pow nonzero e).symm

theorem positional_fraction (digits : ℕ) {places : ℕ} (wide : places ≠ 0) :
    positional ⟨digits, -places⟩ = Nat.toDigits 10 (digits / 10 ^ places) ++
      '.' :: paddedDigits places (digits % 10 ^ places) := by
  have negative : ¬ (0 : ℤ) ≤ -places := by omega
  have toNat : (- -(places : ℤ)).toNat = places := by omega
  simp only [positional, negative, if_false, toNat]
  split
  · -- No digit stands in front of the point.
    rename_i short
    have small : digits < 10 ^ places :=
      (Nat.length_toDigits_le_iff (by omega) (Nat.pos_of_ne_zero wide)).mp short
    rw [Nat.div_eq_of_lt small, Nat.mod_eq_of_lt small, Nat.toDigits_zero, paddedDigits,
      if_neg wide]
    rfl
  · rename_i long
    have large : 10 ^ places ≤ digits := not_lt.mp fun small =>
      long ((Nat.length_toDigits_le_iff (by omega) (Nat.pos_of_ne_zero wide)).mpr small)
    have front : digits / 10 ^ places ≠ 0 :=
      (Nat.div_pos large (Nat.pow_pos (by omega))).ne'
    have split := toDigits_eq_append front
    have length := congrArg List.length split
    rw [List.length_append, length_paddedDigits (Nat.mod_lt _ (Nat.pow_pos (by omega)))] at length
    rw [length, Nat.add_sub_cancel, split, List.take_left' rfl, List.drop_left' rfl]

/-- A decimal without zeros at the end of its digits is written as the plain numeral of its
value. -/
theorem plainNumeral_positional {x : Decimal} (trimmed : x.digits % 10 ≠ 0 ∨ 0 ≤ x.exponent) :
    PlainNumeral x.value (positional x) := by
  obtain ⟨digits, exponent⟩ := x
  simp only at trimmed
  rcases le_or_gt 0 exponent with nonneg | negative
  · obtain ⟨e, rfl⟩ := Int.eq_ofNat_of_zero_le nonneg
    rw [positional_whole]
    have value : Decimal.value ⟨digits, e⟩ = (digits * 10 ^ e : ℕ) := by simp [Decimal.value]
    rw [value]
    exact .of_natCast _
  · obtain ⟨places, rfl⟩ : ∃ places : ℕ, exponent = -places := ⟨(-exponent).toNat, by omega⟩
    have wide : places ≠ 0 := by omega
    have below := Nat.mod_lt digits (Nat.pow_pos (n := places) (show 0 < 10 by omega))
    have length := length_paddedDigits below
    have filled : paddedDigits places (digits % 10 ^ places) ≠ [] := by
      rw [← List.length_pos_iff, length]
      omega
    refine ⟨digits / 10 ^ places, paddedDigits places (digits % 10 ^ places), ?_,
      fun c => isDigit_of_mem_paddedDigits, ?_, ?_⟩
    · rw [positional_fraction digits wide, pointed, if_neg filled]
    · rw [getLast?_paddedDigits wide, Nat.mod_mod_of_dvd _ (dvd_pow_self 10 wide)]
      exact fun same => digitChar_ne_zero (trimmed.resolve_right (by omega)) (Option.some.inj same)
    · have split : (digits : ℚ) =
          (digits / 10 ^ places : ℕ) * 10 ^ places + (digits % 10 ^ places : ℕ) := by
        exact_mod_cast (Nat.div_add_mod' digits (10 ^ places)).symm
      rw [ofDigitChars_paddedDigits below, length, Decimal.value]
      simp only
      rw [zpow_neg, zpow_natCast, split]
      field_simp

end Double

end Phrasebook
