import Phrasebook.Formatter.BuiltIn
import Mathlib

/-!
# Settings in layers

The formatters `currency` and `naturalNumber` leave the number itself to whatever formatter is
called `number`. Settings are put over others twice on the way: those of the call over those of
the formatter, and the outcome over those of `number`. As long as all are objects, a member is
looked up from above in the three layers (`member?_merge`), while the symbol of a currency is
looked up in the upper two alone (`withSymbol_currency`). Both facts together say what the
composed formatters write (`number_in_layers`).
-/

namespace Phrasebook

namespace Settings

/-- The member of settings that may be missing as a whole. -/
def layer (settings : Option Settings) (name : String) : Option Json :=
  settings.bind (Json.member? name)

/-- Settings that are an object, if there are any. -/
def ObjectIfAny (settings : Option Settings) : Prop := ∀ json ∈ settings, json.isObject = true

variable {lower upper : Option Settings}

theorem objectIfAny_some {json : Json} : ObjectIfAny (some json) ↔ json.isObject = true := by
  simp [ObjectIfAny]

theorem ObjectIfAny.eq_none_or_object (object : ObjectIfAny upper) :
    upper = none ∨ ∃ members, upper = some (.object members) := by
  cases upper with
  | none => exact .inl rfl
  | some json =>
      have object := objectIfAny_some.mp object
      cases json with
      | object members => exact .inr ⟨members, rfl⟩
      | _ => cases object

theorem ObjectIfAny.isObject_merge (below : ObjectIfAny lower) (above : ObjectIfAny upper) :
    (merge lower upper).isObject = true := by
  rcases below.eq_none_or_object with rfl | ⟨members, rfl⟩ <;>
    rcases above.eq_none_or_object with rfl | ⟨others, rfl⟩ <;> rfl

/-- A member of objects in layers is that of the upper layer, if it has one. -/
theorem ObjectIfAny.member?_merge (below : ObjectIfAny lower) (above : ObjectIfAny upper)
    (name : String) : (merge lower upper).member? name = (layer upper name).or (layer lower name) := by
  rcases below.eq_none_or_object with rfl | ⟨members, rfl⟩ <;>
    rcases above.eq_none_or_object with rfl | ⟨others, rfl⟩
  · rfl
  · exact Option.or_none.symm
  · rfl
  · exact Settings.member?_merge members others name

theorem merge_none (lower : Option Settings) : merge lower none = lower.getD .emptyObject := by
  cases lower with
  | none => rfl
  | some json => cases json <;> rfl

/-- A member of an object put over any settings is its own, or that of settings that are an object
too. -/
theorem member?_merge_object (lower : Option Settings) {above : Settings}
    (object : above.isObject = true) (name : String) :
    (merge lower (some above)).member? name = (above.member? name).or (layer lower name) := by
  cases lower with
  | none => exact Option.or_none.symm
  | some below =>
      cases above with
      | object members =>
          cases below with
          | object others => exact Settings.member?_merge others members name
          | _ => exact Option.or_none.symm
      | _ => cases object

theorem isObject_merge_object (lower : Option Settings) {above : Settings}
    (object : above.isObject = true) : (merge lower (some above)).isObject = true := by
  cases above with
  | object members =>
      cases lower with
      | none => rfl
      | some below => cases below <;> rfl
  | _ => cases object

/-- Three layers make an object in which a member is that of the uppermost layer that has one. -/
theorem ObjectIfAny.member?_layers {base : Option Settings} (bottom : ObjectIfAny base)
    (middle : ObjectIfAny lower) (top : ObjectIfAny upper) :
    (merge base (some (merge lower upper))).isObject = true ∧
      ∀ name, (merge base (some (merge lower upper))).member? name =
        (layer upper name).or ((layer lower name).or (layer base name)) := by
  have object := objectIfAny_some.mpr (middle.isObject_merge top)
  refine ⟨bottom.isObject_merge object, fun name => ?_⟩
  rw [bottom.member?_merge object name, ← Option.or_assoc, ← middle.member?_merge top name]
  rfl

end Settings

namespace Formatter

open Settings

/-! ## Symbols -/

/-- The placement of a symbol in front of an amount: the word for it, or the number one. -/
def AsksBefore (placement : Option Json) : Prop :=
  placement = some (.string "before") ∨ placement.bind Json.double? = some (.ofInt 1)

/-- The placement of a symbol behind an amount: the word for it, or a number that is neither one
nor zero. -/
def AsksBehind (placement : Option Json) : Prop :=
  placement = some (.string "after") ∨
    ∃ x, placement.bind Json.double? = some x ∧ x ≠ .ofInt 1 ∧ x.isZero = false

/-- A text for an amount of a currency, by the members of settings: the symbol stands once in
front of the amount or behind it, or not at all if it is empty, missing or hidden. -/
inductive WithSymbol (member : String → Option Json) (amount : String) : String → Prop
  | before {symbol : String} : member "symbol" = some (.string symbol) → symbol ≠ "" →
      AsksBefore (member "symbolPlacement") → WithSymbol member amount (symbol ++ amount)
  | behind {symbol : String} : member "symbol" = some (.string symbol) → symbol ≠ "" →
      AsksBehind (member "symbolPlacement") → WithSymbol member amount (amount ++ symbol)
  | bare : (∀ symbol, member "symbol" = some (.string symbol) → symbol ≠ "" →
      ¬ AsksBefore (member "symbolPlacement") ∧ ¬ AsksBehind (member "symbolPlacement")) →
      WithSymbol member amount amount

theorem placement_eq_before_iff {settings : Settings} :
    SymbolPlacement.ofSettings settings = .before ↔
      AsksBefore (settings.member? "symbolPlacement") := by
  unfold SymbolPlacement.ofSettings AsksBefore
  cases settings.member? "symbolPlacement" with
  | none => simp
  | some json =>
      cases json <;> simp [Json.double?] <;> split_ifs <;> simp_all

theorem placement_eq_behind_iff {settings : Settings} :
    SymbolPlacement.ofSettings settings = .behind ↔
      AsksBehind (settings.member? "symbolPlacement") := by
  unfold SymbolPlacement.ofSettings AsksBehind
  cases settings.member? "symbolPlacement" with
  | none => simp
  | some json =>
      cases json <;> simp [Json.double?] <;> split_ifs <;> simp_all

/-- The amount of a currency comes from the formatter `number`, the symbol from the settings. -/
theorem withSymbol_currency (value : Value) (settings : Settings) (context : Context) :
    WithSymbol (settings.member? ·) (context.format "number" value (some settings))
      (currency value settings context) := by
  unfold currency
  cases found : settings.stringMember? "symbol" with
  | none =>
      refine .bare fun symbol given _ => ?_
      rw [Json.stringMember?_eq_some_iff.mpr given] at found
      cases found
  | some symbol =>
      have given := Json.stringMember?_eq_some_iff.mp found
      simp only [Option.getD_some]
      split
      · rename_i empty
        refine .bare fun other same some => absurd ?_ some
        rw [given] at same
        cases same
        exact String.isEmpty_iff.mp empty
      · rename_i filled
        have filled : symbol ≠ "" := fun empty => filled (String.isEmpty_iff.mpr empty)
        cases placed : SymbolPlacement.ofSettings settings with
        | hidden =>
            refine .bare fun _ _ _ => ⟨fun before => ?_, fun behind => ?_⟩
            · rw [placement_eq_before_iff.mpr before] at placed
              cases placed
            · rw [placement_eq_behind_iff.mpr behind] at placed
              cases placed
        | before => exact .before given filled (placement_eq_before_iff.mp placed)
        | behind => exact .behind given filled (placement_eq_behind_iff.mp placed)

end Formatter

/-! ## Numbers -/

namespace Scope

open Formatter Settings

variable {scope : Scope} {upper : Option Settings}

/-- What the formatter `number` of a scope makes of a value with exactly these settings, when it
runs `depth` levels above the bound: the plain text, if there is no such formatter. -/
def numberText (scope : Scope) (depth : ℕ) (value : Value) (settings : Settings) : String :=
  match scope.formatters.get? "number" with
  | some formatter => formatter value settings (scope.contextWithin depth)
  | none => value.plainText

theorem format_number_within (depth : ℕ) (value : Value) (upper : Option Settings) :
    (scope.contextWithin (depth + 1)).format "number" value upper =
      scope.numberText depth value (.merge (scope.settings.get? "number") upper) := by
  unfold numberText
  cases found : scope.formatters.get? "number" with
  | none => exact format_contextWithin_absent found _ value upper
  | some formatter => exact format_contextWithin_registered found depth value upper

theorem format_currency_within (registered : scope.formatters.get? "currency" = some currency)
    (depth : ℕ) (value : Value) (upper : Option Settings) :
    let settings := Settings.merge (scope.settings.get? "currency") upper
    WithSymbol (settings.member? ·)
      (scope.numberText depth value (.merge (scope.settings.get? "number") (some settings)))
      ((scope.contextWithin (depth + 2)).format "currency" value upper) := by
  intro settings
  rw [format_contextWithin_registered registered, ← format_number_within]
  exact withSymbol_currency value settings _

theorem format_naturalNumber_within
    (registered : scope.formatters.get? "naturalNumber" = some naturalNumber) (depth : ℕ)
    {value : Value} {upper : Option Settings}
    (noWord : literal? value (.merge (scope.settings.get? "naturalNumber") upper) = none) :
    (scope.contextWithin (depth + 2)).format "naturalNumber" value upper =
      scope.numberText depth value (.merge (scope.settings.get? "number")
        (some (.merge (scope.settings.get? "naturalNumber") upper))) := by
  rw [format_contextWithin_registered registered, naturalNumber, noWord]
  exact format_number_within depth value _

/-- What the composed formatters write of numbers for a call, if `number` runs `depth` levels above
the bound: the text for a natural number without word, and with the symbol put to it, which is
looked up without the settings of `number`, the text for a currency. -/
structure ComposesNumbers (scope : Scope) (upper : Option Settings)
    (forCurrency forNatural : Settings) (depth : ℕ)
    (format : String → Value → Option Settings → String) : Prop where
  currency : ∀ value, WithSymbol
    (fun name => (layer upper name).or (layer (scope.settings.get? "currency") name))
    (scope.numberText depth value forCurrency) (format "currency" value upper)
  natural : ∀ value, literal? value (.merge (scope.settings.get? "naturalNumber") upper) = none →
    format "naturalNumber" value upper = scope.numberText depth value forNatural

/-- **Settings in layers.** Let `currency` and `naturalNumber` be the built-in formatters of a
scope, and let the settings of both, those of `number` and those of a call be objects or missing.
Then `number`, whatever formatter it is, gets from each of the two an object whose members are
looked up in the settings of the call, in those of the formatter and in those of `number`, in this
order. It makes no difference whether the call comes from another formatter or from outside. -/
theorem number_in_layers (currency : scope.formatters.get? "currency" = some currency)
    (natural : scope.formatters.get? "naturalNumber" = some naturalNumber)
    (objects : ∀ name ∈ ["number", "currency", "naturalNumber"],
      ObjectIfAny (scope.settings.get? name)) (given : ObjectIfAny upper) :
    let own := fun formatter => layer (scope.settings.get? formatter)
    ∃ forCurrency forNatural : Settings, forCurrency.isObject = true ∧ forNatural.isObject = true ∧
      (∀ name, forCurrency.member? name =
        (layer upper name).or ((own "currency" name).or (own "number" name))) ∧
      (∀ name, forNatural.member? name =
        (layer upper name).or ((own "naturalNumber" name).or (own "number" name))) ∧
      (∀ depth, scope.ComposesNumbers upper forCurrency forNatural depth
        (scope.contextWithin (depth + 2)).format) ∧
      scope.ComposesNumbers upper forCurrency forNatural (nesting - 2) scope.format := by
  simp only [List.forall_mem_cons, List.not_mem_nil, false_imp_iff, implies_true, and_true]
    at objects
  obtain ⟨ofNumber, ofCurrency, ofNatural⟩ := objects
  obtain ⟨currencyObject, currencyMember⟩ := ofNumber.member?_layers ofCurrency given
  obtain ⟨naturalObject, naturalMember⟩ := ofNumber.member?_layers ofNatural given
  have symbols : (fun name => (Settings.merge (scope.settings.get? "currency") upper).member? name)
      = fun name => (layer upper name).or (layer (scope.settings.get? "currency") name) :=
    funext (ofCurrency.member?_merge given)
  refine ⟨_, _, currencyObject, naturalObject, currencyMember, naturalMember, ?_⟩
  suffices within : ∀ depth, scope.ComposesNumbers upper _ _ depth
      (scope.contextWithin (depth + 2)).format from ⟨within, within (nesting - 2)⟩
  refine fun depth => ⟨fun value => ?_, fun value => format_naturalNumber_within natural depth⟩
  have written := format_currency_within currency depth value upper
  simp only [symbols] at written
  exact written

/-- A formatter of one's own for numbers gets the unit of the lowest layer, and the symbol of that
layer is not looked up for a currency. -/
theorem number_in_layers_own_number :
    let number : Formatter := fun value settings _ =>
      value.plainText ++ (settings.stringMember? "unit").getD "" ++
        (settings.stringMember? "mark").getD ""
    let scope := ((Scope.builtIn.register "number" number).set "number" (Json.ofMembers
      [("unit", .string "m"), ("mark", .string "!"), ("symbol", .string "#")])).set "currency"
        (Json.ofMembers [("symbolPlacement", .string "after"), ("mark", .string "?")])
    let upper := some (Json.ofMembers [("symbol", .string " kr")])
    scope.formatters.get? "currency" = some Formatter.currency ∧
      scope.formatters.get? "naturalNumber" = some Formatter.naturalNumber ∧
      (∀ name ∈ ["number", "currency", "naturalNumber"],
        ObjectIfAny (scope.settings.get? name)) ∧ ObjectIfAny upper ∧
      scope.format "currency" (.number 7) upper = "7m? kr" := by
  intro number scope upper
  have currency : scope.formatters.get? "currency" = some Formatter.currency := rfl
  have natural : scope.formatters.get? "naturalNumber" = some Formatter.naturalNumber := rfl
  have objects : ∀ name ∈ ["number", "currency", "naturalNumber"],
      ObjectIfAny (scope.settings.get? name) := by
    simp only [List.forall_mem_cons, List.not_mem_nil, false_imp_iff, implies_true, and_true]
    exact ⟨objectIfAny_some.mpr rfl, objectIfAny_some.mpr rfl, objectIfAny_some.mpr rfl⟩
  have given : ObjectIfAny upper := objectIfAny_some.mpr rfl
  refine ⟨currency, natural, objects, given, ?_⟩
  obtain ⟨settings, naturalSettings, -, -, member, -, -, composed⟩ :=
    number_in_layers currency natural objects given
  have amount : scope.numberText (nesting - 2) (.number 7) settings = "7m?" := by
    show (Value.number 7).plainText ++ ((settings.member? "unit").bind Json.string?).getD "" ++
      ((settings.member? "mark").bind Json.string?).getD "" = "7m?"
    rw [member, member]
    rfl
  have placed : (layer upper "symbolPlacement").or
      (layer (scope.settings.get? "currency") "symbolPlacement") = some (.string "after") := rfl
  have written := composed.currency (.number 7)
  rw [amount] at written
  generalize scope.format "currency" (.number 7) upper = text at written ⊢
  cases written with
  | before _ _ asked => simp [AsksBefore, placed, Json.double?] at asked
  | behind found => cases found; rfl
  | bare none => exact absurd (.inl rfl) (none " kr" rfl (by decide)).2

end Scope

end Phrasebook
