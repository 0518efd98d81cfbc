import Phrasebook.Proofs.Formatter.Grouping
import Phrasebook.Proofs.Formatter.Layers
import Phrasebook.Proofs.Double.WholeNumbers

/-!
# Texts of whole numbers

Numeric formatters read a double out of every value, so a whole number may be rounded before it
is written. From there on nothing is lost: the formatter `number` writes the digits of the rounded
number in groups of three, with zeros for the places, in the style of its settings
(`exists_writesWhole_number`), and so does `naturalNumber` where there is no word. Hence the text
is exact where the rounding is, which is so for all numbers up to `2 ^ 53`
(`whole_number_text`), but not for the next one (`whole_number_text_odd`).
-/

namespace Phrasebook

open Double

namespace NumberStyle

variable {settings : Settings} {d : ℕ}

/-- A text is the one for a whole number in a style: a minus sign if there is to be one, the digits
in groups of three, and zeros for all places. -/
def WritesWhole (style : NumberStyle) (negative : Bool) (n : ℕ) (text : String) : Prop :=
  ∃ first others, Grouped (Nat.toDigits 10 n) first others ∧
    text.toList = signText negative ++ style.thousands.toList.intercalate (first :: others) ++
      if style.places = 0 then [] else style.fraction.toList ++ zeros style.places

theorem filter_intercalate {p : Char → Bool} {separator : List Char}
    (spared : separator.filter p = []) (groups : List (List Char)) :
    (separator.intercalate groups).filter p = groups.flatten.filter p := by
  induction groups with
  | nil => rfl
  | cons group groups ih =>
      cases groups with
      | nil => rw [List.intercalate_singleton, List.flatten_singleton]
      | cons next groups =>
          rw [List.intercalate_cons_cons, List.filter_append, List.filter_append, spared, ih,
            List.append_nil, ← List.filter_append, ← List.flatten_cons]

/-- The digits of such a text are those of the number and zeros, unless the separators have
some. -/
theorem WritesWhole.filter_isDigit {style : NumberStyle} {negative : Bool} {n : ℕ} {text : String}
    (written : style.WritesWhole negative n text)
    (thousands : style.thousands.toList.filter Char.isDigit = [])
    (fraction : style.fraction.toList.filter Char.isDigit = []) :
    text.toList.filter Char.isDigit = Nat.toDigits 10 n ++ zeros style.places := by
  obtain ⟨first, others, grouped, same⟩ := written
  have digits : ∀ c ∈ Nat.toDigits 10 n, c.isDigit = true :=
    fun c => Nat.isDigit_of_mem_toDigits (by omega) (by omega)
  have noughts : ∀ c ∈ zeros style.places, c.isDigit = true := fun c => isDigit_of_mem_zeros
  rw [same, List.filter_append, List.filter_append, filter_isDigit_signText, List.nil_append,
    filter_intercalate thousands, List.flatten_cons, grouped.flatten_eq,
    List.filter_eq_self.mpr digits]
  split
  · rename_i none
    rw [none]
    rfl
  · rw [List.filter_append, fraction, List.nil_append, List.filter_eq_self.mpr noughts]

theorem places_ofSettings_le (settings : Settings) : (ofSettings settings).places ≤ maxPlaces := by
  unfold ofSettings
  simp only
  split
  · exact min_le_right _ _
  · decide

theorem places_ofSettings (asked : settings.member? "fractionCount" = some (.integer d))
    (bounded : d ≤ maxPlaces) : (ofSettings settings).places = d := by
  have count : (settings.member? "fractionCount").bind Json.natural? = some d := by
    rw [asked, Option.bind_some, Json.natural?, if_pos (Int.natCast_nonneg d), Int.toNat_natCast]
  unfold ofSettings
  simp only [count]
  exact min_eq_left bounded

theorem writesWhole_format {style : NumberStyle} {negative : Bool} {rank : Fin ranks} {n : ℕ}
    (bounded : style.places ≤ maxPlaces) (whole : magnitude rank = n) :
    style.WritesWhole (negative && decide (n ≠ 0)) n (style.format (.finite negative rank)) := by
  have some : Nat.toDigits 10 n ≠ [] := Nat.toDigits_ne_nil
  obtain ⟨first, others, grouped, same⟩ := exists_grouped style.thousands.toList some
  refine ⟨first, others, grouped, ?_⟩
  rw [toList_format_finite, fixedText_of_whole bounded whole, same]

end NumberStyle

namespace Formatter

/-- The formatter `number` writes the rounded number. -/
theorem exists_writesWhole_number (n : Int64) :
    ∃ shown, RoundsToWhole n.toInt.natAbs shown ∧ ∀ settings context,
      (NumberStyle.ofSettings settings).WritesWhole (decide (n.toInt < 0)) shown
        (number (.number n) settings context) := by
  have small : n.toInt.natAbs < 2 ^ 1023 := by
    have least := n.le_toInt
    have greatest := n.toInt_lt
    have bounded : n.toInt.natAbs < 2 ^ 64 := by omega
    exact bounded.trans (pow_lt_pow_right₀ one_lt_two (by omega))
  obtain ⟨rank, shown, made, whole, rounded⟩ := exists_ofInt_eq_rounded n.toInt small
  refine ⟨shown, rounded, fun settings context => ?_⟩
  -- A number below zero is not rounded to zero.
  have marked : (decide (n.toInt < 0) && decide (shown ≠ 0)) = decide (n.toInt < 0) := by
    rw [Bool.and_eq_left_iff_imp, decide_eq_true_iff, decide_eq_true_iff, ne_eq,
      rounded.eq_zero_iff]
    omega
  have written : (NumberStyle.ofSettings settings).WritesWhole
      (decide (n.toInt < 0) && decide (shown ≠ 0)) shown
      ((NumberStyle.ofSettings settings).format (.finite (decide (n.toInt < 0)) rank)) :=
    NumberStyle.writesWhole_format (NumberStyle.places_ofSettings_le settings) whole
  rw [marked, ← made] at written
  exact written

end Formatter

namespace Scope

open Formatter NumberStyle

/-- **Whole numbers.** A 64-bit number is rounded to a multiple of its unit; nothing is lost iff it
is a multiple itself, as all numbers up to `2 ^ 53` are. Whatever the settings are, the formatter
`number` writes the rounded number in their style, with as many places as they ask for, up to a
hundred; `naturalNumber` writes it in the style of its merged settings where there is no word. -/
theorem whole_number_text (n : Int64) :
    let size := n.toInt.natAbs
    let negative := decide (n.toInt < 0)
    ∃ shown, RoundsToWhole size shown ∧ (shown = size ↔ wholeUnit size ∣ size) ∧
      (size ≤ 2 ^ 53 → shown = size) ∧
      (∀ settings context, (ofSettings settings).WritesWhole negative shown
        (number (.number n) settings context)) ∧
      (∀ (settings : Settings) (d : ℕ), d ≤ maxPlaces →
        settings.member? "fractionCount" = some (.integer d) → (ofSettings settings).places = d) ∧
      ∀ (scope : Scope) (upper : Option Settings),
        let own := Settings.merge (scope.settings.get? "naturalNumber") upper
        scope.formatters.get? "number" = some number →
        scope.formatters.get? "naturalNumber" = some naturalNumber →
        literal? (.number n) own = none →
        (ofSettings (.merge (scope.settings.get? "number") (some own))).WritesWhole negative shown
          (scope.format "naturalNumber" (.number n) upper) := by
  intro size negative
  obtain ⟨shown, rounded, written⟩ := exists_writesWhole_number n
  refine ⟨shown, rounded, rounded.eq_iff, rounded.eq_of_le, written,
    fun settings d bounded asked => places_ofSettings asked bounded, ?_⟩
  intro scope upper own registered natural noWord
  have composed : scope.format "naturalNumber" (.number n) upper =
      scope.numberText (nesting - 2) (.number n) (.merge (scope.settings.get? "number") (some own)) :=
    format_naturalNumber_within natural (nesting - 2) noWord
  rw [composed, numberText, registered]
  exact written _ _

/-- A number below zero has no word. -/
theorem whole_number_text_below_zero :
    let own := Settings.merge (Scope.builtIn.settings.get? "naturalNumber") none
    Scope.builtIn.formatters.get? "number" = some number ∧
      Scope.builtIn.formatters.get? "naturalNumber" = some naturalNumber ∧
      literal? (.number (-1234567)) own = none ∧
      (ofSettings (.merge (Scope.builtIn.settings.get? "number") (some own))).WritesWhole true
        1234567 (Scope.builtIn.format "naturalNumber" (.number (-1234567)) none) := by
  intro own
  have registered : Scope.builtIn.formatters.get? "number" = some number := rfl
  have natural : Scope.builtIn.formatters.get? "naturalNumber" = some naturalNumber := rfl
  have noWord : literal? (.number (-1234567)) own = none := rfl
  obtain ⟨shown, -, -, exact, -, -, written⟩ := whole_number_text (-1234567)
  obtain rfl : shown = 1234567 := exact (by decide)
  exact ⟨registered, natural, noWord, written Scope.builtIn none registered natural noWord⟩

/-- One more than `2 ^ 53` is written as `2 ^ 53`. -/
theorem whole_number_text_odd :
    let settings := Json.ofMembers [("fractionCount", .integer 0)]
    settings.member? "fractionCount" = some (.integer 0) ∧
      Scope.builtIn.call "number" (.number 9007199254740993) settings =
        "9,007,199,254,740,992" ∧
      ¬ (ofSettings settings).WritesWhole false 9007199254740993
        (Scope.builtIn.call "number" (.number 9007199254740993) settings) := by
  intro settings
  have text : Scope.builtIn.call "number" (.number 9007199254740993) settings =
      "9,007,199,254,740,992" := by decide +kernel
  refine ⟨rfl, text, fun written => ?_⟩
  rw [text] at written
  have digits := written.filter_isDigit (by decide +kernel) (by decide +kernel)
  revert digits
  decide +kernel

end Scope

end Phrasebook
