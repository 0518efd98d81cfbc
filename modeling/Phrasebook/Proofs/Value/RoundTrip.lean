import Phrasebook.Proofs.Value.Reading

/-!
# Values as documents

The document of a value does not name the kind of the value. The kind can be told from it all the
same: whole numbers and doubles are different documents, a whole number of 64 bits is within the
range that makes it a `number` again (`ofInteger_toInt`), and a text is never looked into. What has
no document is a double that is not finite; it leaves a `null`, which is read as a text or not at
all. So a value comes back from its document iff all doubles in it are finite, and it makes no
difference by which of the two ways it is read (`json_round_trip`).
-/

namespace Phrasebook

namespace Value

/-- A double is the value, or an item of it at some depth. -/
inductive Holds (x : Double) : Value → Prop
  | here : Holds x (.float x)
  | item {item : Value} {items : List Value} : item ∈ items → Holds x item → Holds x (.list items)

/-- Every double in a value, at any depth, is finite. -/
def Finite (value : Value) : Prop := ∀ x : Double, Holds x value → x.isFinite = true

theorem finite_float_iff {x : Double} : (Value.float x).Finite ↔ x.isFinite = true := by
  constructor
  · intro finite
    exact finite x .here
  · intro finite other held
    cases held
    exact finite

theorem finite_list_iff {items : List Value} :
    (Value.list items).Finite ↔ ∀ item ∈ items, item.Finite := by
  constructor
  · intro finite item member x held
    exact finite x (.item member held)
  · intro finite x held
    cases held with
    | item member held => exact finite _ member x held

/-- Every whole number with 64 bits is within the range that keeps it whole. -/
theorem ofInteger_toInt (n : Int64) : ofInteger n.toInt = .number n := by
  rw [ofInteger, if_pos ⟨n.minValue_le_toInt, n.toInt_le⟩, Int64.ofInt_toInt]

mutual

/-- A value comes back from its document iff its doubles are finite. -/
theorem ofJson_toJson_iff : (value : Value) → (ofJson value.toJson = value ↔ value.Finite)
  | .bool _ => iff_of_true rfl nofun
  | .number n => iff_of_true (ofInteger_toInt n) nofun
  | .float x => by
      rw [finite_float_iff, toJson]
      by_cases finite : x.isFinite = true
      · rw [if_pos finite]
        exact iff_of_true rfl finite
      · rw [if_neg finite]
        exact iff_of_false nofun finite
  | .text _ => iff_of_true rfl nofun
  | .list items => by
      rw [finite_list_iff, toJson, ofJson, Value.list.injEq]
      exact ofJsonItems_toJsonItems_iff items

theorem ofJsonItems_toJsonItems_iff : (items : List Value) →
    (ofJsonItems (toJsonItems items) = items ↔ ∀ item ∈ items, item.Finite)
  | [] => iff_of_true rfl nofun
  | item :: rest => by
      rw [toJsonItems, ofJsonItems, List.cons.injEq, List.forall_mem_cons, ofJson_toJson_iff item,
        ofJsonItems_toJsonItems_iff rest]

end

mutual

/-- The document of a value has no object in it, and `null` only for a double that is not finite. -/
theorem plain_toJson : (value : Value) → value.Finite → value.toJson.Plain
  | .bool _, _ | .number _, _ | .text _, _ =>
      (Json.plain_iff_of_not_array fun _ => Json.noConfusion).mpr ⟨Json.noConfusion, rfl⟩
  | .float x, finite => by
      rw [toJson, if_pos (finite_float_iff.mp finite)]
      exact (Json.plain_iff_of_not_array fun _ => Json.noConfusion).mpr ⟨Json.noConfusion, rfl⟩
  | .list items, finite =>
      Json.plain_array_iff.mpr (plain_toJsonItems items (finite_list_iff.mp finite))

theorem plain_toJsonItems : (items : List Value) → (∀ item ∈ items, item.Finite) →
    ∀ json ∈ toJsonItems items, json.Plain
  | [], _ => nofun
  | item :: rest, finite => by
      obtain ⟨here, behind⟩ := List.forall_mem_cons.mp finite
      exact List.forall_mem_cons.mpr ⟨plain_toJson item here, plain_toJsonItems rest behind⟩

end

/-- **Values as documents.** A value comes back from its document iff all doubles in it are finite:
with a value for every document, and also by trying the kinds of value in order. -/
theorem json_round_trip (value : Value) :
    (ofJson value.toJson = value ↔ value.Finite) ∧
      (ofPlainJson? value.toJson = some value ↔ value.Finite) := by
  have back := ofJson_toJson_iff value
  refine ⟨back, ?_⟩
  rw [ofPlainJson?_eq_some_iff, back]
  constructor
  · rintro ⟨-, finite⟩
    exact finite
  · intro finite
    exact ⟨plain_toJson value finite, finite⟩

end Value

end Phrasebook
