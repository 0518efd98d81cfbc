import Phrasebook.Formatter.BuiltIn
import Phrasebook.Proofs.Double.Shortest

/-!
# Percentages

The formatter `percent` multiplies the double that a value stands for by one hundred and writes the
product with its shortest digits. The product is rounded, so two roundings lie between the number
that a value displays and the number that is written: the one to the double, and the one of the
product. No product of a number with a percentage below the greatest double is infinite
(`hundred_level_le`), so there always is a plain text, and it is the percentage iff the rounding of
the product leads to the shortest decimal that the percentage is (`percent_text`). This is so for
whole numbers as long as the percentage is at most `2 ^ 53`; it is not so for `0.57`
(`percent_text_rounded`).
-/

namespace Phrasebook

open Double

variable {m : ℚ} {negative : Bool} {v : Value}

/-! ## What a value displays -/

/-- The sign and the magnitude of the number that a value displays: that of a whole number itself,
and the shortest decimal of a finite double other than zero. -/
inductive Value.Displays : Value → Bool → ℚ → Prop
  | number (n : Int64) : Displays (.number n) (decide (n.toInt < 0)) n.toInt.natAbs
  | float {negative : Bool} {rank : Fin ranks} : rank.val ≠ 0 →
      Displays (.float (.finite negative rank)) negative (shortest .up rank).value

/-- The plain text of a value with a number is the plain numeral of that number. -/
theorem Value.Displays.plainText (displays : v.Displays negative m) :
    ∃ text, v.plainText = String.ofList (signText negative ++ text) ∧ PlainNumeral m text := by
  cases displays with
  | number n =>
      refine ⟨Nat.toDigits 10 n.toInt.natAbs, ?_, .of_natCast _⟩
      rw [Value.plainText, Value.plainChars]
      rfl
  | float =>
      rename_i rank _
      refine ⟨_, ?_, plainNumeral_shortest .up rank⟩
      rw [Value.plainText, Value.plainChars, Double.plainText, String.toList_ofList]

/-- The double that a value with a number stands for is the nearest one to the number. -/
theorem Value.Displays.exists_numeric? (displays : v.Displays negative m) :
    ∃ own, v.numeric? = some (.finite negative own) ∧ Nearest m own := by
  cases displays with
  | number n =>
      obtain ⟨own, made, nearest⟩ := exists_ofInt_nearest n
      exact ⟨own, congrArg some made, nearest⟩
  | float =>
      rename_i rank _
      exact ⟨rank, rfl, nearest_shortest .up rank⟩

/-! ## One hundred times a double -/

namespace Double

variable {own : Fin ranks}

/-- The last rank whose magnitude can be multiplied by one hundred: the product of the midpoint
above it is greater than every double. -/
def lastHundredth : ℕ := (2039 + 1) * 2 ^ 52 + 1261007895663738

theorem level_greatest : level (ranks - 1) = (2 ^ 53 - 1) * 2 ^ (971 : ℤ) := by
  have place : ranks - 1 = (2045 + 1) * 2 ^ 52 + (2 ^ 52 - 1) := by decide
  rw [level, place, dyadicOfRank_run (by omega), Dyadic.value]
  norm_num

theorem dyadicOfRank_lastHundredth : dyadicOfRank lastHundredth = ⟨5764607523034234, 965⟩ :=
  dyadicOfRank_run (by omega)

theorem level_lastHundredth (u : ℚ) (unit : 2 ^ (965 : ℤ) = u) :
    level lastHundredth = 5764607523034234 * u ∧
      level (lastHundredth + 1) = 5764607523034235 * u ∧
      level (ranks - 1) = 576460752303423424 * u := by
  have last : level lastHundredth = 5764607523034234 * u := by
    rw [level, dyadicOfRank_lastHundredth, Dyadic.value, unit]
    norm_num
  have next : level (lastHundredth + 1) = level lastHundredth + u := by
    rw [level_succ, gap, dyadicOfRank_lastHundredth, unit]
  refine ⟨last, ?_, ?_⟩
  · rw [next, last]
    ring
  · rw [level_greatest, show (971 : ℤ) = 6 + 965 from rfl, Dyadic.unit_add, unit]
    norm_num
    ring

/-- A number with a percentage below the greatest double is rounded to a double whose product is not
above it. -/
theorem hundred_level_le (nearest : Nearest m own) (bounded : 100 * m < level (ranks - 1)) :
    100 * level own ≤ level (ranks - 1) := by
  obtain ⟨u, unit⟩ : ∃ u : ℚ, 2 ^ (965 : ℤ) = u := ⟨_, rfl⟩
  have positive : 0 < u := unit ▸ Dyadic.unit_pos 965
  obtain ⟨last, next, greatest⟩ := level_lastHundredth u unit
  -- The power itself is too great to calculate with.
  clear unit
  rw [greatest] at bounded ⊢
  rcases le_or_gt own.val lastHundredth with small | large
  · have below := level_strictMono.monotone small
    linarith
  · exfalso
    obtain ⟨before, after⟩ := Nat.exists_eq_add_one_of_ne_zero (Nat.ne_zero_of_lt large)
    rw [after] at nearest large
    have above := nearest.middle_le
    have lower : level lastHundredth ≤ level before := level_strictMono.monotone (by omega)
    have upper : level (lastHundredth + 1) ≤ level (before + 1) :=
      level_strictMono.monotone (by omega)
    rw [middle] at above
    linarith

theorem hundred_lt_of_number (n : Int64) : 100 * (n.toInt.natAbs : ℚ) < level (ranks - 1) := by
  obtain ⟨u, unit⟩ : ∃ u : ℚ, 2 ^ (965 : ℤ) = u := ⟨_, rfl⟩
  have large : 2 ^ (20 : ℤ) ≤ u := unit ▸ Dyadic.unit_le (by omega)
  obtain ⟨-, -, greatest⟩ := level_lastHundredth u unit
  clear unit
  have small : n.toInt.natAbs ≤ 2 ^ 63 := by
    have := n.le_toInt
    have := n.toInt_lt
    omega
  have small : (n.toInt.natAbs : ℚ) ≤ 2 ^ 63 := by exact_mod_cast small
  rw [greatest]
  calc 100 * (n.toInt.natAbs : ℚ)
      ≤ 100 * 2 ^ 63 := by gcongr
    _ < 2 ^ 70 := by norm_num
    _ ≤ 576460752303423424 * 2 ^ (20 : ℤ) := by norm_num
    _ ≤ 576460752303423424 * u := by gcongr

theorem hundred_lt_greatest : 100 < level (ranks - 1) := by
  have greatest := hundred_lt_of_number 1
  rwa [Int64.toInt_one, Int.natAbs_one, Nat.cast_one, mul_one] at greatest

/-- The product with one hundred is finite and keeps the sign. -/
theorem exists_mul_hundred (negative : Bool) (nearest : Nearest m own)
    (bounded : 100 * m < level (ranks - 1)) :
    ∃ product : Fin ranks,
      (Double.finite negative own).mul (.ofInt 100) = .finite negative product ∧
      Nearest (100 * magnitude own) product := by
  obtain ⟨hundred, made, whole⟩ := exists_ofInt_eq_exact (n := 100) (by decide)
  have whole : magnitude hundred = 100 := whole
  obtain ⟨same, value, proper⟩ := mul_finite negative false own hundred
  rw [whole, mul_comm] at value
  have small := hundred_level_le nearest bounded
  rw [level_val, ← value] at small
  obtain ⟨product, finite, near⟩ := exists_nearest_of_le (negative != false) proper small
  rw [value] at near
  refine ⟨product, ?_, near⟩
  rw [made, show decide ((100 : ℤ) < 0) = false from rfl, same, finite, Bool.bne_false]

end Double

/-! ## The text -/

namespace Formatter

/-- What `percent` writes before the percent sign for a value that displays a number: the shortest
decimal of the product, which is rounded after the number itself is. -/
structure PercentText (m : ℚ) (own product : Fin ranks) (text : List Char) : Prop where
  -- The double that the value stands for, and its product with one hundred.
  own_nearest : Nearest m own
  product_nearest : Nearest (100 * magnitude own) product
  shortest_text : PlainNumeral (shortest .up product).value text
  right_iff : PlainNumeral (100 * m) text ↔ (shortest .up product).value = 100 * m
  -- The percentage is only written if it is rounded to the product as well.
  nearest_of_right : PlainNumeral (100 * m) text → Nearest (100 * m) product
  -- With at most fifteen digits that is enough.
  right_of_nearest : Nearest (100 * m) product → 2 ^ (-1022 : ℤ) ≤ 100 * m →
    (∃ x : Decimal, x.digits < 10 ^ 15 ∧ x.value = 100 * m) → PlainNumeral (100 * m) text
  right_of_whole : ∀ n : ℕ, m = n → 100 * n ≤ 2 ^ 53 → PlainNumeral (100 * m) text

theorem percentText_positional {own product : Fin ranks} (first : Nearest m own)
    (second : Nearest (100 * magnitude own) product) :
    PercentText m own product (positional (shortest .up product)) := by
  have written := plainNumeral_shortest .up product
  have right : PlainNumeral (100 * m) (positional (shortest .up product)) ↔
      (shortest .up product).value = 100 * m :=
    ⟨fun plain => written.value_unique plain, fun same => same ▸ written⟩
  refine ⟨first, second, written, right, fun plain => ?_, fun near large few => ?_,
    fun n whole few => ?_⟩
  · rw [← right.mp plain]
    exact nearest_shortest .up product
  · obtain ⟨x, digits, value⟩ := few
    rw [← value] at near large ⊢
    rw [← value_shortest_of_few_digits .up (normal_of_le near large) near digits]
    exact written
  · subst whole
    rw [first.magnitude_eq (by omega)] at second
    have product_eq : (100 : ℚ) * n = (100 * n : ℕ) := by push_cast; rfl
    rw [product_eq] at second right ⊢
    exact right.mpr (value_shortest_of_whole .up (second.magnitude_eq few) few)

theorem percent_of_numeric {x : Double} (stands : v.numeric? = some x) (settings : Settings)
    (context : Context) :
    percent v settings context = (x.mul (.ofInt 100)).plainText ++ String.ofList ['%'] := by
  rw [percent, stands]

/-- **Percentages.** For a value that displays a number, be it a whole number or a double other than
zero with a percentage below the greatest double, `percent` writes the sign, the plain numeral of
the shortest decimal of the rounded product, and a percent sign, whatever the settings and the
scope are. -/
theorem percent_text (displays : v.Displays negative m)
    (bounded : v.number? = none → 100 * m < level (ranks - 1)) :
    (∃ shown, v.plainText = String.ofList (signText negative ++ shown) ∧ PlainNumeral m shown) ∧
      ∃ own product text, v.numeric? = some (.finite negative own) ∧
        PercentText m own product text ∧
        ∀ settings context, percent v settings context =
          String.ofList (signText negative ++ text ++ ['%']) := by
  refine ⟨displays.plainText, ?_⟩
  obtain ⟨own, stands, first⟩ := displays.exists_numeric?
  have bounded : 100 * m < level (ranks - 1) := by
    cases displays with
    | number n => exact hundred_lt_of_number n
    | float => exact bounded rfl
  obtain ⟨product, multiplied, second⟩ := exists_mul_hundred negative first bounded
  refine ⟨own, product, positional (shortest .up product), stands,
    percentText_positional first second, fun settings context => ?_⟩
  rw [percent_of_numeric stands, multiplied, Double.plainText, ← String.ofList_append]

/-- Minus one quarter. -/
theorem percent_text_quarter :
    let quarter : Fin ranks := ⟨1021 * 2 ^ 52, by decide⟩
    let v := Value.float (.finite true quarter)
    v.Displays true (1 / 4) ∧ (v.number? = none → 100 * (1 / 4) < level (ranks - 1)) ∧
      ∀ settings context, percent v settings context = "-25%" := by
  intro quarter v
  have spelled : shortest .up quarter = ⟨25, -2⟩ := by decide +kernel
  have value : (shortest .up quarter).value = 1 / 4 := by
    rw [spelled, Decimal.value]
    norm_num
  have displays : v.Displays true (1 / 4) := value ▸ .float (by decide)
  have bounded : v.number? = none → 100 * (1 / 4) < level (ranks - 1) := fun _ =>
    lt_trans (by norm_num) hundred_lt_greatest
  refine ⟨displays, bounded, fun settings context => ?_⟩
  obtain ⟨-, own, product, text, stands, percentage, written⟩ := percent_text displays bounded
  obtain rfl : quarter = own := by
    cases stands
    rfl
  have exact : magnitude quarter = 1 / 4 := by
    have place : quarter.val = (1020 + 1) * 2 ^ 52 + 0 := rfl
    rw [← level_val, level, place, dyadicOfRank_run (by omega), Dyadic.value]
    norm_num
  have nearest := percentage.product_nearest
  rw [exact] at nearest
  have right : PlainNumeral (100 * (1 / 4)) text := by
    refine percentage.right_of_nearest nearest ?_ ⟨⟨25, 0⟩, by decide, ?_⟩
    · have small : (2 : ℚ) ^ (-1022 : ℤ) ≤ 2 ^ (0 : ℤ) := Dyadic.unit_le (by omega)
      exact small.trans (by norm_num)
    · rw [Decimal.value]
      norm_num
  have figures : PlainNumeral (100 * (1 / 4)) (Nat.toDigits 10 25) := by
    convert PlainNumeral.of_natCast 25 using 1
    norm_num
  rw [written, right.text_unique figures]
  rfl

/-- The double of `0.57` is a little less, and so is its product with one hundred. -/
theorem percent_text_rounded :
    ∃ x, read? "0.57" = some x ∧ (Value.float x).Displays false (57 / 100) ∧
      100 * (57 / 100) < level (ranks - 1) ∧
      Scope.builtIn.call "percent" (.float x) .null = "56.99999999999999%" ∧
      ¬ ∃ text, PlainNumeral (100 * (57 / 100)) text ∧
        Scope.builtIn.call "percent" (.float x) .null =
          String.ofList (signText false ++ text ++ ['%']) := by
  have text : Scope.builtIn.call "percent"
      (.float (.finite false ⟨4603309323120478781, by decide⟩)) .null = "56.99999999999999%" := by
    decide +kernel
  refine ⟨.finite false ⟨4603309323120478781, by decide⟩, by decide +kernel, ?_, ?_, text, ?_⟩
  · have spelled : shortest .up ⟨4603309323120478781, by decide⟩ = ⟨57, -2⟩ := by decide +kernel
    have value : (shortest .up ⟨4603309323120478781, by decide⟩).value = 57 / 100 := by
      rw [spelled, Decimal.value]
      norm_num
    exact value ▸ .float (by decide)
  · exact lt_trans (by norm_num) hundred_lt_greatest
  · rintro ⟨shown, right, written⟩
    have figures : PlainNumeral (100 * (57 / 100)) (Nat.toDigits 10 57) := by
      convert PlainNumeral.of_natCast 57 using 1
      norm_num
    rw [text, right.text_unique figures] at written
    revert written
    decide +kernel

end Formatter

end Phrasebook
