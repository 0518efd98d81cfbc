import Phrasebook.Proofs.Double.FixedText

/-!
# Groups of digits

Separators are put between the digits of a number from the end, so where they stand depends on how
many digits there are. Seen from the front, the digits are cut into a first group of one to three
and further groups of three (`Grouped`), and the separators stand between the groups
(`exists_grouped`). Hence a number in a style has the sign, the digits and the places of its
fixed-point text, and nothing else but the separators of the style (`format_groups_digits`).
-/

namespace Phrasebook

/-- Digits cut into a first group of one to three and other groups of three. -/
structure Grouped (digits first : List Char) (others : List (List Char)) : Prop where
  flatten_eq : first ++ others.flatten = digits
  nonempty : 0 < first.length
  short : first.length ≤ 3
  triples : ∀ group ∈ others, group.length = 3

namespace Grouped

variable {digit : Char} {digits first : List Char} {others : List (List Char)}

theorem length_flatten_triples (triples : ∀ group ∈ others, group.length = 3) :
    others.flatten.length = 3 * others.length := by
  induction others with
  | nil => rfl
  | cons group others ih =>
      rw [List.forall_mem_cons] at triples
      rw [List.flatten_cons, List.length_append, triples.1, ih triples.2, List.length_cons]
      omega

theorem length_eq (grouped : Grouped digits first others) :
    digits.length = first.length + 3 * others.length := by
  rw [← grouped.flatten_eq, List.length_append, length_flatten_triples grouped.triples]

theorem single (digit : Char) : Grouped [digit] [digit] [] :=
  ⟨rfl, Nat.one_pos, by simp, by simp⟩

/-- A digit in front of a full group begins a group. -/
theorem cons_of_full (grouped : Grouped digits first others) (full : first.length = 3) :
    Grouped (digit :: digits) [digit] (first :: others) where
  flatten_eq := by rw [List.flatten_cons, grouped.flatten_eq, List.singleton_append]
  nonempty := Nat.one_pos
  short := by simp
  triples := List.forall_mem_cons.mpr ⟨full, grouped.triples⟩

/-- A digit in front of any other group joins it. -/
theorem cons_of_room (grouped : Grouped digits first others) (room : first.length ≠ 3) :
    Grouped (digit :: digits) (digit :: first) others where
  flatten_eq := by rw [List.cons_append, grouped.flatten_eq]
  nonempty := Nat.succ_pos _
  short := by
    have short := grouped.short
    rw [List.length_cons]
    omega
  triples := grouped.triples

/-- The first group is full iff the number of all digits is divisible by three. -/
theorem full_iff (grouped : Grouped digits first others) :
    digits.length % 3 = 0 ↔ first.length = 3 := by
  have nonempty := grouped.nonempty
  have short := grouped.short
  rw [grouped.length_eq]
  omega

end Grouped

/-- The separators stand between the groups. -/
theorem exists_grouped (separator : List Char) {digits : List Char} (some : digits ≠ []) :
    ∃ first others, Grouped digits first others ∧
      groupDigits separator digits = separator.intercalate (first :: others) := by
  induction digits with
  | nil => exact absurd rfl some
  | cons digit rest ih =>
      cases rest with
      | nil => exact ⟨[digit], [], .single digit, List.intercalate_singleton.symm⟩
      | cons next rest =>
          obtain ⟨first, others, grouped, same⟩ := ih (List.cons_ne_nil next rest)
          have step : groupDigits separator (digit :: next :: rest) =
              if (next :: rest).length % 3 = 0 then
                digit :: (separator ++ groupDigits separator (next :: rest))
              else digit :: groupDigits separator (next :: rest) := by
            rw [groupDigits]
            simp
          rw [step, same]
          by_cases full : first.length = 3
          · refine ⟨[digit], first :: others, grouped.cons_of_full full, ?_⟩
            rw [if_pos (grouped.full_iff.mpr full), List.intercalate_cons_cons,
              List.append_assoc, List.singleton_append]
          · refine ⟨digit :: first, others, grouped.cons_of_room full, ?_⟩
            rw [if_neg (grouped.full_iff.not.mpr full)]
            cases others with
            | nil => rw [List.intercalate_singleton, List.intercalate_singleton]
            | cons other others =>
                rw [List.intercalate_cons_cons, List.intercalate_cons_cons, List.cons_append,
                  List.cons_append]

namespace NumberStyle

open Double

theorem negative_fixedText (negative : Bool) (rank : Fin ranks) (places : ℕ) :
    (fixedText negative rank places).negative =
      decide (signed negative (magnitude rank) < 0) := by
  rw [Bool.eq_iff_iff, decide_eq_true_iff]
  exact negative_fixedText_iff

theorem filter_isDigit_signText (negative : Bool) :
    (signText negative).filter Char.isDigit = [] := by
  cases negative <;> rfl

/-- The digits of a plain text are those in front of the point and those behind it. -/
theorem filter_isDigit_format_plain (negative : Bool) (rank : Fin ranks) (places : ℕ) :
    (NumberStyle.format ⟨"", ".", places⟩ (.finite negative rank)).toList.filter Char.isDigit =
      (fixedText negative rank places).whole ++ (fixedText negative rank places).fraction := by
  have digits : ∀ c ∈ (fixedText negative rank places).whole ++
      (fixedText negative rank places).fraction, c.isDigit = true :=
    fun c => isDigit_of_mem_fixedText
  obtain ⟨whole, fraction⟩ := List.forall_mem_append.mp digits
  have point : Char.isDigit '.' = false := rfl
  rw [toList_format_plain, List.filter_append, List.filter_append, filter_isDigit_signText,
    List.nil_append, List.filter_eq_self.mpr whole]
  split
  · rename_i none
    rw [List.eq_nil_of_length_eq_zero ((length_fraction negative rank places).trans none)]
    rfl
  · rw [List.filter_cons_of_neg (by simp [point]), List.filter_eq_self.mpr fraction]

/-- **Grouping.** Whatever the separators are, a finite number in a style has a minus sign iff it
is below zero, the whole digits of its fixed-point text in groups of three but for the first with
the one separator between them, and, iff there are places, the other separator and exactly so many
digits. The groups and these digits are the digits of the fixed-point text, in their order. -/
theorem format_groups_digits (style : NumberStyle) (negative : Bool) (rank : Fin ranks) :
    let sign := signText (decide (signed negative (magnitude rank) < 0))
    let text := fixedText negative rank style.places
    let plain := NumberStyle.format ⟨"", ".", style.places⟩ (.finite negative rank)
    ∃ first others, Grouped text.whole first others ∧ text.fraction.length = style.places ∧
      (style.format (.finite negative rank)).toList =
        sign ++ style.thousands.toList.intercalate (first :: others) ++
          (if style.places = 0 then [] else style.fraction.toList ++ text.fraction) ∧
      plain.toList =
        sign ++ text.whole ++ (if style.places = 0 then [] else '.' :: text.fraction) ∧
      plain.toList.filter Char.isDigit = first ++ others.flatten ++ text.fraction := by
  intro sign text plain
  have written : text.whole ≠ [] := Nat.toDigits_ne_nil
  obtain ⟨first, others, grouped, same⟩ := exists_grouped style.thousands.toList written
  refine ⟨first, others, grouped, length_fraction negative rank style.places, ?_, ?_, ?_⟩
  · rw [toList_format_finite, negative_fixedText, same]
  · rw [toList_format_plain, negative_fixedText]
  · rw [grouped.flatten_eq]
    exact filter_isDigit_format_plain negative rank style.places

/-- Separators that look like parts of a number. -/
example : NumberStyle.format ⟨"-1", ".0", 1⟩ (Double.ofInt (-1234567)) = "-1-1234-1567.00" := by
  decide +kernel

end NumberStyle

end Phrasebook
