import Phrasebook.Proofs.Double.Fixed

/-!
# Numbers in fixed-point text

The digits of a fixed-point text spell the units that its magnitude is rounded to, as many of them
behind the point as there are places (`ofDigitChars_fixedText`, `length_fraction`). With what is
known of these units, the number that is shown is the multiple of `10 ^ -places` nearest to the
number that is written; of two that are equally near it is the one farther from zero, up to
`2 ^ 52` units (`fixedText_rounds_to_nearest`).
-/

namespace Phrasebook

theorem groupDigits_nil (digits : List Char) : groupDigits [] digits = digits := by
  induction digits with
  | nil => rfl
  | cons digit rest ih =>
      cases rest with
      | nil => rfl
      | cons next rest =>
          rw [groupDigits]
          · simp only [List.nil_append, ih, ite_self]
          · simp

namespace Double

variable {rank : Fin ranks} {places n : ℕ} {negative : Bool}

/-! ## Digits -/

theorem length_paddedDigits (small : n < 10 ^ places) :
    (paddedDigits places n).length = places := by
  unfold paddedDigits zeros
  split
  · rename_i none
    exact none.symm
  · rename_i some
    have fits := (Nat.length_toDigits_le_iff (by omega) (Nat.pos_of_ne_zero some)).mpr small
    rw [List.length_append, List.length_replicate]
    omega

theorem ofDigitChars_paddedDigits (small : n < 10 ^ places) :
    Nat.ofDigitChars 10 (paddedDigits places n) 0 = n := by
  unfold paddedDigits zeros
  split
  · rename_i none
    subst none
    simp only [Nat.ofDigitChars_nil]
    omega
  · simp [Nat.ofDigitChars_append]

theorem isDigit_of_mem_zeros {c : Char} (member : c ∈ zeros n) : c.isDigit = true := by
  rw [List.eq_of_mem_replicate member]
  rfl

theorem isDigit_of_mem_paddedDigits {c : Char} (member : c ∈ paddedDigits places n) :
    c.isDigit = true := by
  unfold paddedDigits at member
  split at member
  · cases member
  · rcases List.mem_append.mp member with zero | digit
    · exact isDigit_of_mem_zeros zero
    · exact Nat.isDigit_of_mem_toDigits (by omega) (by omega) digit

theorem length_fraction (negative : Bool) (rank : Fin ranks) (places : ℕ) :
    (fixedText negative rank places).fraction.length = places :=
  length_paddedDigits (Nat.mod_lt _ (Nat.pow_pos (by omega)))

theorem isDigit_of_mem_fixedText {c : Char} (member : c ∈ (fixedText negative rank places).whole ++
    (fixedText negative rank places).fraction) : c.isDigit = true := by
  rcases List.mem_append.mp member with whole | fraction
  · exact Nat.isDigit_of_mem_toDigits (by omega) (by omega) whole
  · exact isDigit_of_mem_paddedDigits fraction

/-- The digits spell the number of units. -/
theorem ofDigitChars_fixedText (negative : Bool) (rank : Fin ranks) (places : ℕ) :
    Nat.ofDigitChars 10 ((fixedText negative rank places).whole ++
      (fixedText negative rank places).fraction) 0 = units rank places := by
  rw [Nat.ofDigitChars_append, Nat.ofDigitChars_eq_ofDigitChars_zero, length_fraction]
  simp only [fixedText, Nat.pow_eq, Nat.ofDigitChars_ten_toDigits]
  rw [ofDigitChars_paddedDigits (Nat.mod_lt _ (Nat.pow_pos (by omega))), Nat.div_add_mod]

/-- The separators of a style come to the parts of a fixed-point text. -/
theorem toList_format_finite (style : NumberStyle) (negative : Bool) (rank : Fin ranks) :
    (style.format (.finite negative rank)).toList =
      signText (fixedText negative rank style.places).negative ++
        groupDigits style.thousands.toList (fixedText negative rank style.places).whole ++
        if style.places = 0 then []
        else style.fraction.toList ++ (fixedText negative rank style.places).fraction := by
  unfold NumberStyle.format
  simp only
  split <;> simp

/-- Without separator between groups, the text is written as it stands. -/
theorem toList_format_plain (negative : Bool) (rank : Fin ranks) (places : ℕ) :
    (NumberStyle.format ⟨"", ".", places⟩ (.finite negative rank)).toList =
      signText (fixedText negative rank places).negative ++
        (fixedText negative rank places).whole ++
        if places = 0 then [] else '.' :: (fixedText negative rank places).fraction := by
  rw [toList_format_finite]
  simp only [String.toList_empty, groupDigits_nil]
  rfl

/-! ## Numbers -/

/-- The number with a sign and a magnitude. -/
def signed (negative : Bool) (m : ℚ) : ℚ := if negative then -m else m

theorem abs_signed (negative : Bool) (m : ℚ) : |signed negative m| = |m| := by
  cases negative
  · rfl
  · exact abs_neg m

theorem abs_signed_sub (negative : Bool) (a b : ℚ) :
    |signed negative a - signed negative b| = |a - b| := by
  cases negative
  · rfl
  · rw [abs_sub_comm a b]
    simp [signed, neg_add_eq_sub]

/-- A multiple of a unit is one with a given sign. -/
theorem exists_eq_signed (negative : Bool) (k : ℤ) (scale : ℚ) :
    ∃ j : ℤ, (k : ℚ) / scale = signed negative (j / scale) := by
  cases negative
  · exact ⟨k, rfl⟩
  · exact ⟨-k, by simp [signed, neg_div]⟩

theorem abs_sub_div_eq (m u : ℚ) {scale : ℚ} (positive : 0 < scale) :
    |m - u / scale| = |m * scale - u| / scale := by
  have split : m - u / scale = (m * scale - u) / scale := by
    rw [sub_div, mul_div_cancel_right₀ _ positive.ne']
  rw [split, abs_div, abs_of_pos positive]

/-- The number that a fixed-point text shows: its digits count units of the last place. -/
def FixedText.shown (text : FixedText) : ℚ :=
  signed text.negative
    (Nat.ofDigitChars 10 (text.whole ++ text.fraction) 0 / 10 ^ text.fraction.length)

theorem units_zero (zero : rank.val = 0) (places : ℕ) : units rank places = 0 := by
  have none : magnitude rank = 0 :=
    le_antisymm (not_lt.mp (magnitude_pos_iff.not_left.mpr zero)) (magnitude_nonneg rank)
  have apart : isHalfway rank places = false := by
    rw [Bool.eq_false_iff]
    intro halfway
    obtain ⟨n, half⟩ := isHalfway_iff.mp halfway
    rw [none, zero_mul] at half
    have : (0 : ℚ) ≤ n := Nat.cast_nonneg n
    linarith
  rw [units, raiseHalf_of_not_halfway apart]
  exact nearestUnits_eq (by simp [none])

theorem shown_fixedText (negative : Bool) (rank : Fin ranks) (places : ℕ) :
    (fixedText negative rank places).shown = signed negative (units rank places / 10 ^ places) := by
  rw [FixedText.shown, ofDigitChars_fixedText, length_fraction]
  by_cases zero : rank.val = 0
  · simp [units_zero zero, signed]
  · have marked : (rank.val != 0) = true := by simpa using zero
    simp [fixedText, marked]

/-- The minus sign marks the numbers below zero. -/
theorem negative_fixedText_iff :
    (fixedText negative rank places).negative = true ↔ signed negative (magnitude rank) < 0 := by
  have sign : signed negative (magnitude rank) < 0 ↔ negative = true ∧ 0 < magnitude rank := by
    cases negative
    · simp [signed, magnitude_nonneg rank]
    · simp [signed]
  rw [sign, magnitude_pos_iff]
  simp [fixedText]

/-- A whole number that is not the nearest one is farther away, or one lies beside the other and
the fraction is halfway between them. -/
theorem nearest_or_halfway {s : ℚ} {u k : ℤ} (near : |s - u| ≤ 1 / 2) (different : k ≠ u) :
    |s - u| ≤ |s - k| ∧
      (|s - u| = |s - k| → u = k + 1 ∧ s = k + 1 / 2 ∨ k = u + 1 ∧ s = u + 1 / 2) := by
  have bounds := abs_le.mp near
  rcases lt_or_gt_of_ne different with below | above
  · have apart : (k : ℚ) + 1 ≤ u := by exact_mod_cast below
    rw [abs_of_nonneg (show 0 ≤ s - k by linarith)]
    refine ⟨near.trans (by linarith), fun tie => .inl ?_⟩
    rcases abs_cases (s - u) with ⟨right, -⟩ | ⟨left, -⟩
    · linarith
    · have : (u : ℚ) ≤ k + 1 := by linarith
      exact ⟨le_antisymm (by exact_mod_cast this) below, by linarith⟩
  · have apart : (u : ℚ) + 1 ≤ k := by exact_mod_cast above
    rw [abs_of_nonpos (show s - k ≤ 0 by linarith)]
    refine ⟨near.trans (by linarith), fun tie => .inr ?_⟩
    rcases abs_cases (s - u) with ⟨right, -⟩ | ⟨left, -⟩
    · have : (k : ℚ) ≤ u + 1 := by linarith
      exact ⟨le_antisymm (by exact_mod_cast this) above, by linarith⟩
    · linarith

theorem add_half_lt_iff (n bound : ℕ) : (n : ℚ) + 1 / 2 < bound ↔ n < bound := by
  constructor
  · intro below
    have : (n : ℚ) < bound := by linarith
    exact_mod_cast this
  · intro below
    have : (n : ℚ) + 1 ≤ bound := by exact_mod_cast below
    linarith

/-- Of two multiples of `10 ^ -places` that are equally near to a magnitude, the greater one is
shown while there are less than `2 ^ 52` units, and else the even one. -/
theorem units_nearest (bounded : places ≤ NumberStyle.maxPlaces) {k : ℤ}
    (different : k ≠ units rank places) :
    |magnitude rank * 10 ^ places - units rank places| ≤ |magnitude rank * 10 ^ places - k| ∧
      (|magnitude rank * 10 ^ places - units rank places| = |magnitude rank * 10 ^ places - k| →
        if magnitude rank * 10 ^ places < 2 ^ 52 then |k| < units rank places
        else units rank places % 2 = 0) := by
  have near := abs_sub_units_le bounded rank
  obtain ⟨nearest, tie⟩ :=
    nearest_or_halfway (u := units rank places) (by simpa using near) different
  simp only [Int.cast_natCast] at nearest tie
  refine ⟨nearest, fun equal => ?_⟩
  have nonneg : 0 ≤ magnitude rank * 10 ^ places := by
    have := magnitude_nonneg rank
    positivity
  have few_iff {n : ℕ} (half : magnitude rank * 10 ^ places = n + 1 / 2) :
      magnitude rank * 10 ^ places < 2 ^ 52 ↔ n < 2 ^ 52 := by
    rw [half]
    exact_mod_cast add_half_lt_iff n (2 ^ 52)
  rcases tie equal with ⟨next, half⟩ | ⟨next, half⟩
  · -- The units shown are the greater ones.
    have least : 0 ≤ k := by
      have : (-1 : ℚ) < k := by linarith
      exact Int.add_one_le_iff.mpr (by exact_mod_cast this)
    obtain ⟨n, rfl⟩ := Int.eq_ofNat_of_zero_le least
    simp only [Int.cast_natCast] at half
    split
    · rw [abs_of_nonneg least]
      omega
    · rename_i many
      exact units_of_great_half bounded half (not_lt.mp ((few_iff half).not.mp many))
  · split
    · rename_i few
      have := units_of_half half ((few_iff half).mp few)
      omega
    · rename_i many
      exact units_of_great_half bounded half (not_lt.mp ((few_iff half).not.mp many))

/-- **Fixed-point text.** With at most a hundred places, a finite number is written with a minus
sign iff it is below zero, at least one digit, and exactly so many digits behind the point. The
number that is shown is the nearest multiple of `10 ^ -places`, and of two that are equally near
the one farther from zero, if the number has less than `2 ^ 52` units; if it has more, the number
of units that are shown is even. -/
theorem fixedText_rounds_to_nearest (negative : Bool) (rank : Fin ranks)
    (bounded : places ≤ NumberStyle.maxPlaces) :
    let x := signed negative (magnitude rank)
    let text := fixedText negative rank places
    (NumberStyle.format ⟨"", ".", places⟩ (.finite negative rank)).toList =
        signText text.negative ++ text.whole ++
          (if places = 0 then [] else '.' :: text.fraction) ∧
      (text.negative = true ↔ x < 0) ∧ text.whole ≠ [] ∧ text.fraction.length = places ∧
      (∀ c ∈ text.whole ++ text.fraction, c.isDigit = true) ∧
      ∀ k : ℤ, k / 10 ^ places ≠ text.shown →
        |x - text.shown| ≤ |x - k / 10 ^ places| ∧
        (|x - text.shown| = |x - k / 10 ^ places| →
          if |x| * 10 ^ places < 2 ^ 52 then |(k / 10 ^ places : ℚ)| < |text.shown|
          else Nat.ofDigitChars 10 (text.whole ++ text.fraction) 0 % 2 = 0) := by
  intro x text
  have scale : (0 : ℚ) < 10 ^ places := by positivity
  have value : text.shown = signed negative (units rank places / 10 ^ places) :=
    shown_fixedText negative rank places
  refine ⟨toList_format_plain negative rank places, negative_fixedText_iff, Nat.toDigits_ne_nil,
    length_fraction negative rank places, fun c => isDigit_of_mem_fixedText, ?_⟩
  intro k different
  -- The other multiple is one of its sign and a whole number of units.
  obtain ⟨j, same⟩ := exists_eq_signed negative k (10 ^ places)
  have apart : j ≠ units rank places := by
    rintro rfl
    exact different (same.trans (by simpa using value.symm))
  obtain ⟨nearest, tie⟩ := units_nearest bounded apart
  have spelled : Nat.ofDigitChars 10 (text.whole ++ text.fraction) 0 = units rank places :=
    ofDigitChars_fixedText negative rank places
  rw [value, same, abs_signed_sub, abs_signed_sub, abs_sub_div_eq _ _ scale,
    abs_sub_div_eq _ _ scale, spelled]
  simp only [x, abs_signed, abs_of_nonneg (magnitude_nonneg rank)]
  refine ⟨div_le_div_of_nonneg_right nearest scale.le, fun equal => ?_⟩
  have outcome := tie ((div_left_inj' scale.ne').mp equal)
  split
  · rename_i few
    rw [if_pos few] at outcome
    rw [abs_div, abs_div, Nat.abs_cast]
    refine div_lt_div_of_pos_right ?_ (abs_pos.mpr scale.ne')
    exact_mod_cast outcome
  · rename_i many
    rwa [if_neg many] at outcome

/-- A number below zero, halfway between two hundredths. -/
theorem fixedText_rounds_to_nearest_eighths :
    ∃ rank, read? "-1.125" = some (.finite true rank) ∧
      (NumberStyle.format ⟨"", ".", 2⟩ (.finite true rank)).toList = "-1.13".toList ∧
      ∀ k : ℤ, k / 10 ^ 2 ≠ (-1.13 : ℚ) →
        |signed true (magnitude rank) - -1.13| ≤ |signed true (magnitude rank) - k / 10 ^ 2| := by
  let rank : Fin ranks := ⟨1023 * 2 ^ 52 + 2 ^ 49, by decide⟩
  obtain ⟨written, -, -, -, -, nearest⟩ :=
    fixedText_rounds_to_nearest true rank (show 2 ≤ NumberStyle.maxPlaces by decide)
  have count : units rank 2 = 113 := by decide +kernel
  have shown : (fixedText true rank 2).shown = -1.13 := by
    rw [shown_fixedText, count]
    norm_num [signed]
  rw [shown] at nearest
  refine ⟨rank, by decide +kernel, ?_, fun k different => (nearest k different).1⟩
  rw [written]
  decide +kernel

/-- A quarter behind `2 ^ 50` has as far to go to two tenths as to three, and is shown with two. -/
theorem fixedText_rounds_to_nearest_great_half :
    ∃ rank, read? "1125899906842624.25" = some (.finite false rank) ∧
      NumberStyle.format ⟨"", ".", 1⟩ (.finite false rank) = "1125899906842624.2" ∧
      (fixedText false rank 1).shown = 1125899906842624.2 ∧
      |magnitude rank - 1125899906842624.3| = |magnitude rank - 1125899906842624.2| := by
  let rank : Fin ranks := ⟨1073 * 2 ^ 52 + 1, by decide⟩
  have count : units rank 1 = 11258999068426242 := by decide +kernel
  have place : dyadicOfRank rank.val = ⟨2 ^ 52 + 1, -2⟩ := by decide +kernel
  refine ⟨rank, by decide +kernel, by decide +kernel, ?_, ?_⟩
  · rw [shown_fixedText, count]
    norm_num [signed]
  · rw [magnitude, place]
    norm_num [Dyadic.value]

end Double

end Phrasebook
