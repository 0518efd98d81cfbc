import Phrasebook.Value
import Mathlib

/-!
# Two ways from a text to a value

A text can be read as a document, which then becomes a value, or as a value straight away. The
first way has a value for every document. The second tries the kinds of value in order, and no
kind takes `null` or an object. Where a document has neither at any depth, both ways give the same
value (`read_agrees_with_document`). This is an induction over the document in which each case
says which kind comes first; only for a whole number two kinds may take it.
-/

namespace Phrasebook

/-! ## Documents without `null` and objects -/

namespace Json

/-- A document is another one, or an item or a member of it at some depth. -/
inductive Within (part : Json) : Json → Prop
  | here : Within part part
  | item {item : Json} {items : List Json} : item ∈ items → Within part item →
      Within part (.array items)
  | member {name : String} {json : Json} {members : List (String × Json)} :
      (name, json) ∈ members → Within part json → Within part (.object members)

/-- A document with neither `null` nor an object in it, at any depth. -/
def Plain (json : Json) : Prop :=
  ∀ part : Json, part.Within json → part ≠ .null ∧ part.isObject = false

/-- There is nothing to be found in a document that is no array but the document itself, unless it
is an object. -/
theorem plain_iff_of_not_array {json : Json} (noArray : ∀ items, json ≠ .array items) :
    Plain json ↔ json ≠ .null ∧ json.isObject = false := by
  constructor
  · intro plain
    exact plain json .here
  · intro leaf part within
    cases within with
    | here => exact leaf
    | item => exact absurd rfl (noArray _)
    | member => cases leaf.2

theorem plain_array_iff {items : List Json} :
    Plain (.array items) ↔ ∀ item ∈ items, Plain item := by
  constructor
  · intro plain item member part within
    exact plain part (.item member within)
  · intro plain part within
    cases within with
    | here => exact ⟨Json.noConfusion, rfl⟩
    | item member within => exact plain _ member part within

theorem read_eq_ok_iff {text : String} {json : Json} :
    Json.read text = .ok json ↔
      ∃ rest, readFirst text.toList = .ok (json, rest) ∧ expectEnd rest = .ok () := by
  unfold Json.read readChars
  cases first : readFirst text.toList with
  | error fault => simp [Except.mapError, bind, Except.bind]
  | ok found =>
      obtain ⟨value, rest⟩ := found
      cases ending : expectEnd rest <;>
        simp [ending, Except.mapError, bind, Except.bind, pure, Except.pure]

end Json

/-! ## The kinds of value in order -/

namespace Value

/-- A whole number is one of 64 bits if it fits, and otherwise a double. -/
theorem ofScalar?_integer (n : Int) : ofScalar? (.integer n) = some (ofInteger n) := by
  by_cases fits : Int64.minValue.toInt ≤ n ∧ n ≤ Int64.maxValue.toInt
  · have signed : (Json.integer n).signed? = some (.ofInt n) := if_pos fits
    rw [ofScalar?, signed, ofInteger, if_pos fits]
    rfl
  · have unsigned : (Json.integer n).signed? = none := if_neg fits
    rw [ofScalar?, unsigned, ofInteger, if_neg fits]
    rfl

theorem ofScalar?_eq_some_iff {json : Json} (noArray : ∀ items, json ≠ .array items)
    {value : Value} : ofScalar? json = some value ↔ json.Plain ∧ ofJson json = value := by
  rw [Json.plain_iff_of_not_array noArray]
  cases json with
  | null => simp [ofScalar?, Json.bool?, Json.signed?, Json.double?, Json.string?]
  | object members =>
      simp [ofScalar?, Json.bool?, Json.signed?, Json.double?, Json.string?, Json.isObject]
  | integer n => simp [ofScalar?_integer, Json.isObject, ofJson]
  | bool flag => simp [ofScalar?, Json.bool?, Json.isObject, ofJson]
  | float x => simp [ofScalar?, Json.bool?, Json.signed?, Json.double?, Json.isObject, ofJson]
  | string text =>
      simp [ofScalar?, Json.bool?, Json.signed?, Json.double?, Json.string?, Json.isObject, ofJson]
  | array items => exact absurd rfl (noArray items)

theorem ofPlainItems?_cons_eq_some_iff {item : Json} {rest : List Json} {values : List Value} :
    ofPlainItems? (item :: rest) = some values ↔
      ∃ first others, ofPlainJson? item = some first ∧ ofPlainItems? rest = some others ∧
        values = first :: others := by
  rw [ofPlainItems?]
  cases ofPlainJson? item <;> cases ofPlainItems? rest <;> simp [eq_comm]

mutual

/-- The kinds take the plain documents, and each as the value that it has as a document. -/
theorem ofPlainJson?_eq_some_iff : (json : Json) → {value : Value} →
    (ofPlainJson? json = some value ↔ json.Plain ∧ ofJson json = value)
  | .array items, value => by
      rw [Json.plain_array_iff, ofJson]
      show (ofPlainItems? items).map .list = some value ↔ _
      simp only [Option.map_eq_some_iff, ofPlainItems?_eq_some_iff items]
      constructor
      · rintro ⟨values, ⟨plain, rfl⟩, rfl⟩
        exact ⟨plain, rfl⟩
      · rintro ⟨plain, rfl⟩
        exact ⟨_, ⟨plain, rfl⟩, rfl⟩
  | .null, _ | .bool _, _ | .integer _, _ | .float _, _ | .string _, _ | .object _, _ =>
      ofScalar?_eq_some_iff fun _ => Json.noConfusion

theorem ofPlainItems?_eq_some_iff : (items : List Json) → {values : List Value} →
    (ofPlainItems? items = some values ↔
      (∀ item ∈ items, item.Plain) ∧ ofJsonItems items = values)
  | [], values => by simp [ofPlainItems?, ofJsonItems]
  | item :: rest, values => by
      rw [ofPlainItems?_cons_eq_some_iff, List.forall_mem_cons, ofJsonItems]
      simp only [ofPlainJson?_eq_some_iff item, ofPlainItems?_eq_some_iff rest]
      constructor
      · rintro ⟨first, others, ⟨here, rfl⟩, ⟨behind, rfl⟩, rfl⟩
        exact ⟨⟨here, behind⟩, rfl⟩
      · rintro ⟨⟨here, behind⟩, rfl⟩
        exact ⟨_, _, ⟨here, rfl⟩, ⟨behind, rfl⟩, rfl⟩

end

theorem read_eq_ok_iff {text : String} {value : Value} :
    Value.read text = .ok value ↔
      ∃ json, Json.read text = .ok json ∧ json.Plain ∧ ofJson json = value := by
  simp only [Json.read_eq_ok_iff, ← ofPlainJson?_eq_some_iff]
  unfold Value.read
  cases first : Json.readFirst text.toList with
  | error fault => simp [first]
  | ok found =>
      obtain ⟨json, rest⟩ := found
      cases taken : ofPlainJson? json <;> cases ending : Json.expectEnd rest <;>
        simp [first, taken, ending]

/-- **Reading a value.** A text can be read as a value straight away iff it is a document with
neither `null` nor an object in it, and the value is then that of the document. -/
theorem read_agrees_with_document (text : String) :
    ((∃ value, Value.read text = .ok value) ↔
      ∃ json, Json.read text = .ok json ∧
        ∀ part : Json, part.Within json → part ≠ .null ∧ part.isObject = false) ∧
    ∀ value json, Value.read text = .ok value → Json.read text = .ok json →
      value = ofJson json := by
  constructor
  · constructor
    · rintro ⟨value, success⟩
      obtain ⟨json, parsed, plain, -⟩ := read_eq_ok_iff.mp success
      exact ⟨json, parsed, plain⟩
    · rintro ⟨json, parsed, plain⟩
      exact ⟨ofJson json, read_eq_ok_iff.mpr ⟨json, parsed, plain, rfl⟩⟩
  · intro value json success parsed
    obtain ⟨other, otherParsed, -, rfl⟩ := read_eq_ok_iff.mp success
    obtain rfl : other = json := Except.ok.inj (otherParsed.symm.trans parsed)
    rfl

end Value

end Phrasebook
