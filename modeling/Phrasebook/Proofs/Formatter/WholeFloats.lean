import Phrasebook.Formatter.BuiltIn
import Phrasebook.Proofs.Double.Shortest
import Phrasebook.Proofs.Table

/-!
# Whole numbers as doubles

A whole number up to `2 ^ 53` is a double, and it makes no difference to the built-in formatters
which of the two a caller binds. All that they look at is the number that a value stands for, its
place among words, whether it is one, whether it is a list, and its plain text; on all of these the
two agree (`alike_number_float`). So each formatter writes the same for both if the formatters that
it calls do (`treatsAlike_builtIn`), and an induction over the depth of the calls closes the circle
(`whole_float_text`).
-/

namespace Phrasebook

open Double Formatter

/-! ## Values that formatters cannot tell apart -/

/-- Two values agree on all that the built-in formatters look at. -/
structure Value.Alike (v w : Value) : Prop where
  numeric?_eq : v.numeric? = w.numeric?
  wordIndex?_eq : wordIndex? v = wordIndex? w
  isOne_eq : v.isOne = w.isOne
  list?_eq : v.list? = w.list?
  plainText_eq : v.plainText = w.plainText

theorem wordIndex?_float {negative : Bool} {rank : Fin ranks} {m : ℕ} (whole : magnitude rank = m)
    (few : m ≤ 2 ^ 53) :
    wordIndex? (.float (.finite negative rank)) =
      if negative = true ∧ m ≠ 0 then none else some m := by
  have zero : (Double.finite negative rank).isZero = decide (m = 0) := by
    have positive : 0 < magnitude rank ↔ rank.val ≠ 0 := magnitude_pos_iff
    rw [whole, Nat.cast_pos, Nat.pos_iff_ne_zero, not_iff_not] at positive
    exact decide_eq_decide.mpr positive.symm
  have found : whole? (.finite negative rank) = some m := whole?_eq_some_iff.mpr whole
  have capped : min m (Nat.pow 2 63 - 1) = m := min_eq_left (by rw [Nat.pow_eq]; omega)
  simp [wordIndex?, found, zero, capped, isNegative]

theorem alike_number_float {n : Int64} (few : n.toInt.natAbs ≤ 2 ^ 53) {rank : Fin ranks}
    (whole : magnitude rank = n.toInt.natAbs) :
    Value.Alike (.number n) (.float (.finite (decide (n.toInt < 0)) rank)) where
  numeric?_eq := congrArg some ((ofInt_eq_iff few).mpr ⟨rfl, whole⟩)
  wordIndex?_eq := by
    rw [wordIndex?_float whole few, wordIndex?]
    simp only [decide_eq_true_eq]
    split <;> split
    · omega
    · rw [show n.toInt.natAbs = n.toInt.toNat by omega]
    · rfl
    · omega
  isOne_eq := by
    show (n == 1) = (Double.finite (decide (n.toInt < 0)) rank == ofInt 1)
    rw [Bool.eq_iff_iff, beq_iff_eq, beq_iff_eq, @eq_comm Double, ofInt_eq_iff (by decide), whole,
      ← Int64.toInt_inj, Int64.toInt_one, Nat.cast_inj, decide_eq_decide]
    omega
  list?_eq := rfl
  plainText_eq := by
    have text : (Double.finite (decide (n.toInt < 0)) rank).plainText = _ :=
      plainText_of_whole whole few
    rw [Value.plainText, Value.plainText, Value.plainChars, Value.plainChars, text,
      String.toList_ofList]
    rfl

/-! ## Formatters -/

namespace Formatter

variable {v w : Value} {name : String} {formatter : Formatter}

/-- A formatter writes the same for two values, wherever it can only call formatters that do. -/
def TreatsAlike (v w : Value) (formatter : Formatter) : Prop :=
  ∀ (settings : Settings) (context : Context),
    (∀ name own, context.call name v own = context.call name w own) →
      formatter v settings context = formatter w settings context

theorem treatsAlike_percent (alike : v.Alike w) : TreatsAlike v w percent := by
  intro settings context same
  rw [percent, percent, alike.numeric?_eq, alike.plainText_eq]

theorem treatsAlike_number (alike : v.Alike w) : TreatsAlike v w number := by
  intro settings context same
  rw [number, number, alike.numeric?_eq, alike.plainText_eq]

theorem treatsAlike_currency (v w : Value) : TreatsAlike v w currency := by
  intro settings context same
  have amount (upper : Option Settings) :
      context.format "number" v upper = context.format "number" w upper := same _ _
  rw [currency, currency, amount]

theorem treatsAlike_naturalNumber (alike : v.Alike w) : TreatsAlike v w naturalNumber := by
  intro settings context same
  have figures (upper : Option Settings) :
      context.format "number" v upper = context.format "number" w upper := same _ _
  have word : literal? v settings = literal? w settings := by
    rw [literal?, literal?, alike.wordIndex?_eq]
  rw [naturalNumber, naturalNumber, word, figures]

theorem treatsAlike_genderedNaturalNumber (v w : Value) :
    TreatsAlike v w genderedNaturalNumber := by
  intro settings context same
  exact same _ _

theorem treatsAlike_plural (alike : v.Alike w) : TreatsAlike v w plural := by
  intro settings context same
  rw [plural, plural, alike.isOne_eq, alike.plainText_eq]

theorem treatsAlike_naturalList (alike : v.Alike w) : TreatsAlike v w naturalList := by
  intro settings context same
  rw [naturalList, naturalList, alike.list?_eq, alike.plainText_eq]

theorem treatsAlike_builtIn (alike : v.Alike w)
    (registered : FormatterTable.builtIn.get? name = some formatter) :
    TreatsAlike v w formatter := by
  rw [FormatterTable.builtIn, Table.get?_ofEntries] at registered
  have member := Entries.mem_of_find? registered
  simp only [List.mem_cons, List.not_mem_nil, or_false, Prod.mk.injEq] at member
  obtain ⟨-, rfl⟩ | ⟨-, rfl⟩ | ⟨-, rfl⟩ | ⟨-, rfl⟩ | ⟨-, rfl⟩ | ⟨-, rfl⟩ | ⟨-, rfl⟩ | ⟨-, rfl⟩ :=
    member
  · exact treatsAlike_percent alike
  · exact treatsAlike_number alike
  · exact treatsAlike_currency v w
  · exact treatsAlike_naturalNumber alike
  · exact treatsAlike_genderedNaturalNumber v w
  · exact treatsAlike_genderedNaturalNumber v w
  · exact treatsAlike_plural alike
  · exact treatsAlike_naturalList alike

end Formatter

namespace Scope

variable {scope : Scope} {v w : Value}

/-- Where every formatter writes the same for two values, so do calls, to any depth. -/
theorem callWithin_eq_of_treatsAlike (plain : v.plainText = w.plainText)
    (treats : ∀ name formatter, scope.formatters.get? name = some formatter →
      TreatsAlike v w formatter) (depth : ℕ) (name : String) (own : Settings) :
    scope.callWithin depth name v own = scope.callWithin depth name w own := by
  induction depth generalizing name own with
  | zero => exact plain
  | succ depth ih =>
      rw [callWithin, callWithin]
      cases registered : scope.formatters.get? name with
      | none => exact plain
      | some formatter => exact treats name formatter registered own _ ih

/-- **Whole numbers as doubles.** A whole number up to `2 ^ 53` is a double. In a scope with the
built-in formatters, whatever settings they have, every one of them writes the same for the number
and for the double, both when it is called with settings of any shape and when it is asked for by
its name with others put over its own. (Zero is meant as the double that a number is converted to,
without a sign.) -/
theorem whole_float_text (n : Int64) (few : n.toInt.natAbs ≤ 2 ^ 53) (settings : SettingsTable)
    (name : String) :
    let scope : Scope := ⟨.builtIn, settings⟩
    ∃ rank, ofInt n.toInt = .finite (decide (n.toInt < 0)) rank ∧
      magnitude rank = n.toInt.natAbs ∧
      (∀ own, scope.call name (.number n) own = scope.call name (.float (ofInt n.toInt)) own) ∧
      ∀ upper, scope.format name (.number n) upper =
        scope.format name (.float (ofInt n.toInt)) upper := by
  intro scope
  obtain ⟨rank, made, whole⟩ := exists_ofInt_eq_exact few
  have alike : Value.Alike (.number n) (.float (ofInt n.toInt)) := by
    rw [made]
    exact alike_number_float few whole
  have same (own : Settings) :
      scope.call name (.number n) own = scope.call name (.float (ofInt n.toInt)) own :=
    callWithin_eq_of_treatsAlike alike.plainText_eq
      (fun _ _ registered => treatsAlike_builtIn alike registered) nesting name own
  exact ⟨rank, made, whole, same, fun upper => same _⟩

/-- The greatest number that is meant, and settings without a word for zero. -/
theorem whole_float_text_greatest :
    (9007199254740992 : Int64).toInt.natAbs ≤ 2 ^ 53 ∧
      Scope.builtIn.format "maleNaturalNumber" (.number 9007199254740992) (some .null) =
        Scope.builtIn.format "maleNaturalNumber" (.float (ofInt 9007199254740992))
          (some .null) := by
  have few : (9007199254740992 : Int64).toInt.natAbs ≤ 2 ^ 53 := by decide
  obtain ⟨-, -, -, -, same⟩ := whole_float_text 9007199254740992 few .builtIn "maleNaturalNumber"
  exact ⟨few, same (some .null)⟩

end Scope

end Phrasebook
