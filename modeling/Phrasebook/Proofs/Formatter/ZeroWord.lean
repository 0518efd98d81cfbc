import Phrasebook.Proofs.Double.WholeNumbers
import Phrasebook.Proofs.Formatter.Layers

/-!
# Words of one's own for zero

The formatters `femaleNaturalNumber` and `maleNaturalNumber` put another word for zero into the
settings of `naturalNumber` and leave the rest to that formatter. The settings so made differ from
the old ones in the member `literals` alone, and there in the first word
(`HasWords.withZeroWord`), so only the text for zero changes (`literal?_withZeroWord`). Nothing of
this reaches the formatter `number`, which does not look the words up (`number_congr`). Hence zero
gets the word, and any other value has the text that `naturalNumber` has for it
(`gendered_replaces_zero`).
-/

namespace Phrasebook

/-- The whole number zero, and the doubles zero and minus zero. -/
inductive Value.IsZero : Value → Prop
  | number : IsZero (.number 0)
  | float {x : Double} : x.isZero = true → IsZero (.float x)

namespace Formatter

open Settings

variable {settings other : Settings} {own : Option Settings} {words : List Json} {word : String}
  {value : Value}

/-! ## Settings -/

/-- Settings give a word for zero: they are the word, or an object with the word as its member
`zero`. -/
inductive GivesZero (word : String) : Settings → Prop
  | plain : GivesZero word (.string word)
  | member {settings : Settings} :
      settings.member? "zero" = some (.string word) → GivesZero word settings

theorem givesZero_iff : GivesZero word settings ↔ plainOrMember? "zero" settings = some word := by
  constructor
  · intro given
    cases given with
    | plain => rfl
    | member found =>
        have text := Json.stringMember?_eq_some_iff.mpr found
        cases settings with
        | string _ => cases found
        | _ => exact text
  · intro found
    cases settings with
    | string text =>
        cases found
        exact .plain
    | _ => exact .member (Json.stringMember?_eq_some_iff.mp found)

/-- Settings, if there are any, are an object whose words, if it has any, are an array. -/
def WordsIfAny (settings : Option Settings) : Prop :=
  ObjectIfAny settings ∧ ∀ literals ∈ layer settings "literals", ∃ words, literals = .array words

/-- An object has these words; none, if it has no such member. -/
structure HasWords (settings : Settings) (words : List Json) : Prop where
  isObject : settings.isObject = true
  words_eq : (settings.member? "literals").getD (.array []) = .array words

theorem WordsIfAny.exists_hasWords (wordsIfAny : WordsIfAny own) :
    ∃ words, HasWords (own.getD .emptyObject) words := by
  obtain ⟨object, array⟩ := wordsIfAny
  cases own with
  | none => exact ⟨[], rfl, rfl⟩
  | some settings =>
      have object := objectIfAny_some.mp object
      cases found : settings.member? "literals" with
      | none => exact ⟨[], object, by rw [Option.getD_some, found]; rfl⟩
      | some literals =>
          obtain ⟨words, rfl⟩ := array literals found
          exact ⟨words, object, by rw [Option.getD_some, found]; rfl⟩

theorem isObject_withZeroWord (object : settings.isObject = true) (word : String) :
    (withZeroWord word settings).isObject = true := by
  cases settings with
  | object members =>
      unfold withZeroWord
      simp only
      split <;> rfl
  | _ => cases object

/-- Another word for zero comes in front of the other words, and changes no other member. -/
theorem HasWords.withZeroWord (has : HasWords settings words) (word : String) :
    HasWords (withZeroWord word settings) (.string word :: words.drop 1) ∧
      ∀ name ≠ "literals", (withZeroWord word settings).member? name = settings.member? name := by
  obtain ⟨object, array⟩ := has
  cases settings with
  | object members =>
      have made : Formatter.withZeroWord word (.object members) =
          .merge (some (.object members))
            (some (.object [("literals", .array (.string word :: words.drop 1))])) := by
        have array : (Entries.find? "literals" members).getD (.array []) = .array words := array
        unfold Formatter.withZeroWord
        simp only [array]
      refine ⟨⟨isObject_withZeroWord object word, ?_⟩, fun name different => ?_⟩
      · rw [made, Settings.member?_merge]
        rfl
      · have absent : Json.member? name
            (.object [("literals", .array (.string word :: words.drop 1))]) = none := by
          simp [Json.member?, Entries.find?, different.symm]
        rw [made, Settings.member?_merge, absent, Option.none_or]
  | _ => cases object

/-! ## Words -/

theorem literal?_of_hasWords (has : HasWords settings words) (value : Value) :
    literal? value settings = (wordIndex? value).bind fun index =>
      words[index]?.bind fun json => json.string?.bind fun word =>
        if word.isEmpty then none else some word := by
  unfold literal?
  cases found : settings.member? "literals" with
  | none =>
      have array := has.words_eq
      rw [found] at array
      cases array
      simp
  | some literals =>
      have array := has.words_eq
      rw [found] at array
      cases array
      rfl

/-- Only the value at the first place has another word. -/
theorem literal?_withZeroWord (has : HasWords settings words) (word : String) (value : Value) :
    literal? value (withZeroWord word settings) =
      if wordIndex? value = some 0 then if word.isEmpty then none else some word
      else literal? value settings := by
  rw [literal?_of_hasWords has, literal?_of_hasWords (has.withZeroWord word).1]
  cases wordIndex? value with
  | none => rfl
  | some index =>
      cases index with
      | zero => rfl
      | succ index => simp

/-- Zero is the value at the first place. -/
theorem wordIndex?_eq_zero_iff : wordIndex? value = some 0 ↔ value.IsZero := by
  constructor
  · intro first
    cases value with
    | number n =>
        simp only [wordIndex?, Option.ite_none_right_eq_some, Option.some.injEq] at first
        obtain rfl : n = 0 := Int64.toInt_inj.mp (show n.toInt = 0 by omega)
        exact .number
    | float x =>
        cases x with
        | finite negative rank =>
            cases whole : Double.whole? (.finite negative rank) with
            | none => simp [wordIndex?, whole] at first
            | some n =>
                simp only [wordIndex?, whole, Option.ite_none_left_eq_some, Option.some.injEq,
                  Nat.min_eq_zero_iff] at first
                obtain rfl : n = 0 := first.2.resolve_right (by decide)
                have none := Double.whole?_eq_some_iff.mp whole
                refine .float (decide_eq_true_iff.mpr ?_)
                by_contra some
                exact (Double.magnitude_pos_iff.mpr some).ne' (none.trans Nat.cast_zero)
        | _ => cases first
    | _ => cases first
  · intro zero
    cases zero with
    | number => rfl
    | float zero =>
        rename_i x
        cases x with
        | finite negative rank =>
            have none : Double.magnitude rank = (0 : ℕ) := by
              rw [Nat.cast_zero]
              refine le_antisymm (not_lt.mp ?_) (Double.magnitude_nonneg rank)
              exact Double.magnitude_pos_iff.not_left.mpr (of_decide_eq_true zero)
            have whole : Double.whole? (.finite negative rank) = some 0 :=
              Double.whole?_eq_some_iff.mpr none
            simp [wordIndex?, whole, zero]
        | _ => cases zero

theorem literal?_congr (same : settings.member? "literals" = other.member? "literals")
    (value : Value) : literal? value settings = literal? value other := by
  unfold literal?
  rw [same]

/-- The formatter `number` does not look at the words. -/
theorem number_congr (same : ∀ name ≠ "literals", settings.member? name = other.member? name)
    (value : Value) (context rest : Context) :
    number value settings context = number value other rest := by
  have style : NumberStyle.ofSettings settings = NumberStyle.ofSettings other := by
    unfold NumberStyle.ofSettings Json.stringMember?
    rw [same _ (by decide), same _ (by decide), same _ (by decide)]
  unfold number
  rw [style]

end Formatter

namespace Scope

open Formatter Settings

variable {scope : Scope}

/-- Where `naturalNumber` and `number` are the built-in formatters, the text for a natural number
is its word, or what `number` writes with the merged settings. -/
theorem format_naturalNumber_eq
    (natural : scope.formatters.get? "naturalNumber" = some naturalNumber)
    (registered : scope.formatters.get? "number" = some number) (depth : ℕ) (value : Value)
    (upper : Option Settings) (context : Context) :
    let settings := Settings.merge (scope.settings.get? "naturalNumber") upper
    (scope.contextWithin (depth + 2)).format "naturalNumber" value upper =
      (literal? value settings).getD
        (number value (.merge (scope.settings.get? "number") (some settings)) context) := by
  intro settings
  rw [format_contextWithin_registered natural, naturalNumber]
  cases literal? value settings with
  | some word => rfl
  | none =>
      show (scope.contextWithin (depth + 1)).format "number" value (some settings) = _
      rw [format_contextWithin_registered registered]
      rfl

/-- Settings made from those that a formatter has keep all members but the words. -/
structure KeepsButWords (own : Option Settings) (derived : Settings) : Prop where
  isObject : derived.isObject = true
  kept : ∀ name ≠ "literals", derived.member? name = layer own name
  words : derived.member? "literals" = none → layer own "literals" = none

theorem member?_of_getD {own : Option Settings} {settings : Settings}
    (isOwn : own.getD .emptyObject = settings) (name : String) :
    settings.member? name = layer own name := by
  subst isOwn
  cases own <;> rfl

theorem keepsButWords_self {own : Option Settings} {settings : Settings} {words : List Json}
    (isOwn : own.getD .emptyObject = settings) (has : HasWords settings words) :
    KeepsButWords own settings where
  isObject := has.isObject
  kept := fun name _ => member?_of_getD isOwn name
  words := fun none => (member?_of_getD isOwn _).symm.trans none

theorem keepsButWords_withZeroWord {own : Option Settings} {settings : Settings}
    {words : List Json} (isOwn : own.getD .emptyObject = settings) (has : HasWords settings words)
    (word : String) : KeepsButWords own (withZeroWord word settings) := by
  obtain ⟨⟨object, array⟩, kept⟩ := has.withZeroWord word
  refine ⟨object, fun name different => ?_, fun none => ?_⟩
  · exact (kept name different).trans (member?_of_getD isOwn name)
  · rw [none] at array
    cases array

/-- Such settings are merged to themselves with those they are made from. -/
theorem KeepsButWords.member?_merge {own : Option Settings} {derived : Settings}
    (keeps : KeepsButWords own derived) (name : String) :
    (Settings.merge own (some derived)).member? name = derived.member? name := by
  rw [member?_merge_object own keeps.isObject]
  by_cases isWords : name = "literals"
  · subst isWords
    cases found : derived.member? "literals" with
    | none => rw [keeps.words found, Option.or_none]
    | some literals => rfl
  · rw [keeps.kept name isWords, Option.or_self]

/-- Such settings show in the words alone. -/
theorem format_derived
    (natural : scope.formatters.get? "naturalNumber" = some naturalNumber)
    (registered : scope.formatters.get? "number" = some number)
    {own derived : Settings} (isOwn : scope.settingsOf "naturalNumber" = own)
    (object : own.isObject = true)
    (keeps : KeepsButWords (scope.settings.get? "naturalNumber") derived)
    (depth : ℕ) (value : Value) (context : Context) :
    (scope.contextWithin (depth + 2)).format "naturalNumber" value (some derived) =
      (literal? value derived).getD
        (number value (.merge (scope.settings.get? "number") (some own)) context) := by
  subst isOwn
  rw [format_naturalNumber_eq natural registered depth value (some derived) context,
    literal?_congr (keeps.member?_merge "literals") value]
  congr 1
  refine number_congr (fun name different => ?_) value context context
  rw [member?_merge_object _ (isObject_merge_object _ keeps.isObject),
    member?_merge_object _ object, keeps.member?_merge, keeps.kept name different]
  congr 1
  exact (member?_of_getD rfl name).symm

/-- A text is what the formatters with a word of their own for zero write for a value: the word for
zero, if the settings give one that is not empty, and for any other value, and without such a word,
the text for natural numbers. An empty word stands for none, so that zero is written in figures. -/
structure ReplacesZero (scope : Scope) (settings : Settings) (value : Value) (text : String) :
    Prop where
  zero : ∀ word, GivesZero word settings → word ≠ "" → value.IsZero → text = word
  other : ¬ value.IsZero → text = scope.format "naturalNumber" value none
  without : (∀ word, ¬ GivesZero word settings) → text = scope.format "naturalNumber" value none
  empty : GivesZero "" settings → value.IsZero →
    text = scope.format "number" value (some (scope.settingsOf "naturalNumber"))

theorem genderedNaturalNumber_of_word {word : String} {settings : Settings}
    (given : GivesZero word settings) (depth : ℕ) (value : Value) :
    genderedNaturalNumber value settings (scope.contextWithin depth) =
      (scope.contextWithin depth).format "naturalNumber" value
        (some (withZeroWord word (scope.settingsOf "naturalNumber"))) := by
  unfold genderedNaturalNumber
  simp only [givesZero_iff.mp given]
  rfl

theorem genderedNaturalNumber_of_no_word {settings : Settings}
    (none : ∀ word, ¬ GivesZero word settings) (depth : ℕ) (value : Value) :
    genderedNaturalNumber value settings (scope.contextWithin depth) =
      (scope.contextWithin depth).format "naturalNumber" value
        (some (scope.settingsOf "naturalNumber")) := by
  have absent : plainOrMember? "zero" settings = .none :=
    Option.eq_none_iff_forall_ne_some.mpr fun word found => none word (givesZero_iff.mpr found)
  unfold genderedNaturalNumber
  simp only [absent]
  rfl

theorem replacesZero_within
    (natural : scope.formatters.get? "naturalNumber" = some naturalNumber)
    (registered : scope.formatters.get? "number" = some number)
    (wordsIfAny : WordsIfAny (scope.settings.get? "naturalNumber"))
    (settings : Settings) (value : Value) (depth : ℕ) :
    scope.ReplacesZero settings value
      (genderedNaturalNumber value settings (scope.contextWithin (depth + 2))) := by
  obtain ⟨words, has⟩ := wordsIfAny.exists_hasWords
  obtain ⟨own, isOwn⟩ : ∃ own, scope.settingsOf "naturalNumber" = own := ⟨_, rfl⟩
  have has : HasWords own words := isOwn ▸ has
  let context := scope.contextWithin (nesting - 1)
  let figures := number value (.merge (scope.settings.get? "number") (some own)) context
  have derived (changed : Settings)
      (keeps : KeepsButWords (scope.settings.get? "naturalNumber") changed) :
      (scope.contextWithin (depth + 2)).format "naturalNumber" value (some changed) =
        (literal? value changed).getD figures :=
    format_derived natural registered isOwn has.isObject keeps depth value context
  have plain : scope.format "naturalNumber" value none = (literal? value own).getD figures := by
    have merged : Settings.merge (scope.settings.get? "naturalNumber") none = own :=
      (merge_none _).trans isOwn
    have text := format_naturalNumber_eq natural registered (nesting - 2) value none context
    rw [merged] at text
    exact text
  by_cases given : ∃ word, GivesZero word settings
  · obtain ⟨word, given⟩ := given
    have same {other : String} (also : GivesZero other settings) : other = word :=
      Option.some.inj ((givesZero_iff.mp also).symm.trans (givesZero_iff.mp given))
    have keeps := keepsButWords_withZeroWord isOwn has word
    rw [genderedNaturalNumber_of_word given, isOwn, derived _ keeps, literal?_withZeroWord has]
    refine ⟨fun other also some zero => ?_, fun different => ?_,
      fun none => absurd given (none word), fun also zero => ?_⟩
    · obtain rfl := same also
      rw [if_pos (wordIndex?_eq_zero_iff.mpr zero), if_neg (mt String.isEmpty_iff.mp some),
        Option.getD_some]
    · rw [if_neg (wordIndex?_eq_zero_iff.not.mpr different), plain]
    · obtain rfl := same also
      rw [if_pos (wordIndex?_eq_zero_iff.mpr zero), if_pos (String.isEmpty_iff.mpr rfl),
        Option.getD_none, format_registered registered, isOwn]
  · have none : ∀ word, ¬ GivesZero word settings := not_exists.mp given
    have keeps := keepsButWords_self isOwn has
    rw [genderedNaturalNumber_of_no_word none, isOwn, derived _ keeps]
    exact ⟨fun word given => absurd given (none word), fun _ => plain.symm, fun _ => plain.symm,
      fun given => absurd given (none "")⟩

/-- **Words of one's own for zero.** Let `naturalNumber` and `number` be the built-in formatters of
a scope, and let the settings of `naturalNumber` be missing, or an object whose words are an array
if it has any. Then the built-in formatters with a word of their own for zero write the word that
their settings give for zero, and else what `naturalNumber` writes. It makes no difference whether
the call comes from another formatter or from outside. -/
theorem gendered_replaces_zero
    (natural : scope.formatters.get? "naturalNumber" = some naturalNumber)
    (registered : scope.formatters.get? "number" = some number)
    (wordsIfAny : WordsIfAny (scope.settings.get? "naturalNumber"))
    (settings : Settings) (value : Value) :
    (∀ depth, scope.ReplacesZero settings value
        (genderedNaturalNumber value settings (scope.contextWithin (depth + 2)))) ∧
      ∀ name, scope.formatters.get? name = some genderedNaturalNumber →
        scope.ReplacesZero settings value (scope.call name value settings) := by
  have within := replacesZero_within natural registered wordsIfAny settings value
  refine ⟨within, fun name gendered => ?_⟩
  have called : scope.call name value settings =
      genderedNaturalNumber value settings (scope.contextWithin (nesting - 1)) := by
    show scope.callWithin nesting name value settings = _
    rw [nesting, callWithin, gendered]
    rfl
  rw [called]
  exact within (nesting - 3)

/-- Words of which the first is no text, and a word for minus zero. -/
theorem gendered_replaces_zero_minus_zero :
    let scope := Scope.builtIn.set "naturalNumber" (Json.ofMembers
      [("literals", .array [.integer 7])])
    let settings := Json.ofMembers [("zero", .string "keine")]
    let zero := Value.float (.ofRank true 0)
    scope.formatters.get? "naturalNumber" = some naturalNumber ∧
      scope.formatters.get? "number" = some number ∧
      WordsIfAny (scope.settings.get? "naturalNumber") ∧
      scope.formatters.get? "femaleNaturalNumber" = some genderedNaturalNumber ∧
      scope.call "femaleNaturalNumber" zero settings = "keine" ∧
      scope.call "femaleNaturalNumber" (.number 1) settings =
        scope.format "naturalNumber" (.number 1) none := by
  intro scope settings zero
  have natural : scope.formatters.get? "naturalNumber" = some naturalNumber := rfl
  have registered : scope.formatters.get? "number" = some number := rfl
  have wordsIfAny : WordsIfAny (scope.settings.get? "naturalNumber") := by
    refine ⟨objectIfAny_some.mpr rfl, fun literals found => ⟨[.integer 7], ?_⟩⟩
    cases found
    rfl
  have gendered : scope.formatters.get? "femaleNaturalNumber" = some genderedNaturalNumber := rfl
  have given : GivesZero "keine" settings := .member rfl
  have isZero : zero.IsZero := .float rfl
  have isOne : ¬ (Value.number 1).IsZero := by rintro ⟨⟩
  refine ⟨natural, registered, wordsIfAny, gendered, ?_, ?_⟩
  · have replaces :=
      (gendered_replaces_zero natural registered wordsIfAny settings zero).2 _ gendered
    exact replaces.zero "keine" given (by decide) isZero
  · have replaces :=
      (gendered_replaces_zero natural registered wordsIfAny settings (.number 1)).2 _ gendered
    exact replaces.other isOne

end Scope

end Phrasebook
