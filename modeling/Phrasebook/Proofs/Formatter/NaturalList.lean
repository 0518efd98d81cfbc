import Phrasebook.Formatter.BuiltIn
import Mathlib

/-!
# Lists in words

The formatter `naturalList` puts the plain texts of all items in a row, each once and in order: the
last one behind the final separator and those between behind the other separator
(`joinNaturally_eq_row`). With one and the same text for both it joins the items by that text
(`joinNaturally_self`). The plain text of a list is such a join as well, by commas and at every
depth (`plainText_list`), so commas for both separators give it back (`naturalList_keeps_items`).
-/

namespace Phrasebook

/-! ## Plain texts -/

namespace Value

theorem plainItems_eq_intercalate (items : List Value) :
    plainItems items = [','].intercalate (items.map plainChars) := by
  induction items with
  | nil => rfl
  | cons item rest ih =>
      cases rest with
      | nil => rw [plainItems, List.map_singleton, List.intercalate_singleton]
      | cons next others =>
          show plainChars item ++ ',' :: plainItems (next :: others) = _
          rw [ih]
          simp only [List.map_cons, List.intercalate_cons_cons, List.append_assoc,
            List.singleton_append]

/-- The plain text of a list is that of its items, joined by commas. -/
theorem plainText_list (items : List Value) :
    (Value.list items).plainText = ",".intercalate (items.map plainText) := by
  apply String.toList_injective
  rw [String.toList_intercalate, plainText, String.toList_ofList, plainChars,
    plainItems_eq_intercalate, List.map_map]
  congr 1
  apply List.map_congr_left
  intro item _
  exact String.toList_ofList.symm

end Value

/-! ## Texts in a row -/

namespace Formatter

/-- Texts in a row: the first one, and each of the others behind its own separator. -/
def row (first : String) (separators others : List String) : String :=
  first ++ String.join (List.zipWith (· ++ ·) separators others)

theorem row_cons (first separator next : String) (separators others : List String) :
    row first (separator :: separators) (next :: others) =
      first ++ separator ++ row next separators others := by
  simp only [row, List.zipWith_cons_cons, String.join_cons, String.append_assoc]

variable (separator final : String)

/-- Two texts or more are joined by as many separators as there are texts less two, and the final
one in front of the last text. -/
theorem joinNaturally_eq_row (first second : String) (others : List String) :
    joinNaturally separator final (first :: second :: others) =
      row first (List.replicate others.length separator ++ [final]) (second :: others) := by
  induction others generalizing first second with
  | nil =>
      show first ++ final ++ second = row first [final] [second]
      rw [row_cons]
      simp [row]
  | cons third others ih =>
      show first ++ separator ++ joinNaturally separator final (second :: third :: others) = _
      rw [ih, List.length_cons, List.replicate_succ, List.cons_append, row_cons]

/-- With one separator for all places the texts are just joined. -/
theorem joinNaturally_self (texts : List String) :
    joinNaturally separator separator texts = separator.intercalate texts := by
  match texts with
  | [] => exact String.intercalate_nil.symm
  | [single] => exact String.intercalate_singleton.symm
  | [first, last] =>
      rw [String.intercalate_cons_cons, String.intercalate_singleton]
      rfl
  | first :: second :: third :: others =>
      rw [String.intercalate_cons_cons, ← joinNaturally_self (second :: third :: others)]
      rfl

/-! ## The separators that settings choose -/

/-- What settings choose under a name: the text that they have there, or else a standard text. -/
inductive Chooses (settings : Settings) (name standard : String) : String → Prop
  | given {text : String} : settings.member? name = some (.string text) →
      Chooses settings name standard text
  | standard : (∀ text, settings.member? name ≠ some (.string text)) →
      Chooses settings name standard standard

/-- All settings choose one text under each name. -/
theorem chooses_iff {settings : Settings} {name standard text : String} :
    Chooses settings name standard text ↔
      (settings.stringMember? name).getD standard = text := by
  constructor
  · intro chosen
    cases chosen with
    | given found => rw [Json.stringMember?_eq_some_iff.mpr found, Option.getD_some]
    | standard absent =>
        have nothing : settings.stringMember? name = none := by
          refine Option.eq_none_iff_forall_ne_some.mpr fun text found => ?_
          exact absent text (Json.stringMember?_eq_some_iff.mp found)
        rw [nothing, Option.getD_none]
  · rintro rfl
    cases found : settings.stringMember? name with
    | some text => exact .given (Json.stringMember?_eq_some_iff.mp found)
    | none =>
        refine .standard fun text given => ?_
        rw [Json.stringMember?_eq_some_iff.mpr given] at found
        cases found

/-- **Lists in words.** A list without items has an empty text, one item stands alone, and of more
items each has its plain text once and in order, the last behind the final separator and all others
but the first behind the separator. Each of the two is the text that the settings have for it, or
the standard one. If both are the same text, the items are joined by it, and if both are a comma,
the list has its plain text. -/
theorem naturalList_keeps_items (items : List Value) (settings : Settings) (context : Context)
    {separator final : String} (between : Chooses settings "separator" ", " separator)
    (last : Chooses settings "finalSeparator" " and " final) :
    let text := naturalList (.list items) settings context
    (items = [] → text = "") ∧
      (∀ item, items = [item] → text = item.plainText) ∧
      (∀ first others, items = first :: others → others ≠ [] →
        let separators := List.replicate (items.length - 2) separator ++ [final]
        separators.length = others.length ∧
          text = row first.plainText separators (others.map Value.plainText)) ∧
      (separator = final → text = separator.intercalate (items.map Value.plainText)) ∧
      (separator = "," → final = "," → text = (Value.list items).plainText) := by
  intro text
  have joined : text = joinNaturally separator final (items.map Value.plainText) := by
    rw [← chooses_iff.mp between, ← chooses_iff.mp last]
    rfl
  have same : separator = final →
      text = separator.intercalate (items.map Value.plainText) := by
    intro same
    rw [joined, ← same, joinNaturally_self]
  refine ⟨?_, ?_, ?_, same, ?_⟩
  · intro empty
    rw [joined, empty]
    rfl
  · intro item alone
    rw [joined, alone]
    rfl
  · intro first others split several separators
    obtain ⟨second, others, rfl⟩ := List.exists_cons_of_ne_nil several
    have count : items.length - 2 = (others.map Value.plainText).length := by
      rw [split, List.length_map]
      rfl
    constructor
    · simp [separators, count]
    · rw [joined, split, List.map_cons, List.map_cons, joinNaturally_eq_row, ← count]
  · intro comma alsoComma
    rw [same (comma.trans alsoComma.symm), comma, Value.plainText_list]

/-- Both separators are set to one text, which an item contains as well; lists below have commas at
every depth. -/
theorem naturalList_keeps_items_one_separator :
    let items : List Value :=
      [.text "a; b", .list [.bool true, .list [.number 1, .text ""]], .text ""]
    let settings : Settings :=
      .object [("finalSeparator", .string "; "), ("separator", .string "; ")]
    settings.member? "separator" = some (.string "; ") ∧
      settings.member? "finalSeparator" = some (.string "; ") ∧
      naturalList (.list items) settings Scope.builtIn.context =
        "; ".intercalate (items.map Value.plainText) ∧
      naturalList (.list items) settings Scope.builtIn.context = "a; b; true,1,; " := by
  intro items settings
  have between : settings.member? "separator" = some (.string "; ") := by rfl
  have last : settings.member? "finalSeparator" = some (.string "; ") := by rfl
  obtain ⟨-, -, -, joined, -⟩ := naturalList_keeps_items items settings Scope.builtIn.context
    (.given between) (.given last)
  exact ⟨between, last, joined rfl, by decide +kernel⟩

/-- Without settings for it the final separator is the standard one, also behind an item that
contains it. -/
example :
    naturalList (.list [.text "a and b", .text "c", .text ""])
      (.object [("separator", .string ";")]) Scope.builtIn.context = "a and b;c and " := by
  decide +kernel

end Formatter

end Phrasebook
