import Phrasebook.Proofs.Formatter.Layers
import Phrasebook.Proofs.Json.Documents

/-!
# Settings put over settings

Objects are put over each other member by member, and members in order depend on their look-ups
alone (`Entries.ordered_congr`). So of three layers it makes no difference which two are combined
first (`merge_objects_assoc`), and settings that have been put over others can be put over them
again without a change (`InOrder.merge_merge`). A formatter therefore writes the same for a call
with some settings and for a call with its own settings already put below them
(`merge_absorbs_and_composes`).

The members of every object that is read are in order (`inOrder_of_read`), and a list of members in
another order is no object that could be met.
-/

namespace Phrasebook

namespace Settings

/-- The members of settings, if they are an object, are in order, each name once. -/
def InOrder (settings : Option Settings) : Prop :=
  ∀ members, settings = some (.object members) → Entries.Ascending members

variable {lower upper : Option Settings}

theorem inOrder_ofMembers (members : List (String × Json)) :
    InOrder (some (.ofMembers members)) := by
  intro _ same
  cases same
  exact Entries.Ascending.ordered members

theorem inOrder_of_read {text : String} {json : Json} (read : Json.read text = .ok json) :
    InOrder (some json) := by
  have hereditary : Json.Hereditary fun json => InOrder (some json) := by
    apply Json.Hereditary.of_objects
    · intro json plain members same
      cases same
      cases plain
    · intro members _
      exact inOrder_ofMembers members
  exact hereditary.of_read read

/-! ## The same settings twice -/

theorem ofMembers_congr {members others : List (String × Json)}
    (same : ∀ name, Entries.find? name members = Entries.find? name others) :
    Json.ofMembers members = Json.ofMembers others :=
  congrArg Json.object (Entries.ordered_congr same)

/-- Settings stay as they are when they are put over anything but an object. -/
theorem object_or_merge_eq (lower : Option Settings) (above : Settings) :
    (∃ members, lower = some (.object members)) ∨ merge lower (some above) = above := by
  cases lower with
  | none => exact .inr rfl
  | some below =>
      cases below with
      | object members => exact .inl ⟨members, rfl⟩
      | _ => exact .inr rfl

/-- Nothing changes when settings that have been put over others are put over them again. -/
theorem InOrder.merge_merge (ordered : InOrder lower) (upper : Option Settings) :
    merge lower (some (merge lower upper)) = merge lower upper := by
  rcases object_or_merge_eq lower (merge lower upper) with ⟨below, rfl⟩ | same
  · cases upper with
    | none =>
        -- The object is put over itself, which leaves its members in order.
        show Json.ofMembers (below ++ below) = .object below
        have twice : Json.ofMembers (below ++ below) = .ofMembers below := by
          apply ofMembers_congr
          intro name
          rw [Entries.find?_append, Option.or_self]
        rw [twice, Json.ofMembers, (ordered below rfl).ordered_eq]
    | some above =>
        cases above with
        | object above =>
            apply ofMembers_congr
            intro name
            rw [Entries.find?_append, Entries.find?_ordered, Entries.find?_append, Option.or_assoc,
              Option.or_self]
        | _ => rfl
  · exact same

theorem inOrder_merge (below : InOrder lower) (above : InOrder upper) :
    InOrder (some (merge lower upper)) := by
  cases upper with
  | none =>
      rw [merge_none]
      cases lower with
      | none => exact inOrder_ofMembers []
      | some json => exact below
  | some json =>
      rcases object_or_merge_eq lower json with ⟨members, rfl⟩ | same
      · cases json with
        | object others => exact inOrder_ofMembers (members ++ others)
        | _ => exact above
      · rwa [same]

/-- It makes no difference whether settings that are missing count as an empty object. -/
theorem InOrder.merge_getD (ordered : InOrder upper) (lower : Option Settings) :
    merge (some (lower.getD .emptyObject)) upper = merge lower upper := by
  cases lower with
  | some below => rfl
  | none =>
      cases upper with
      | none => rfl
      | some above =>
          cases above with
          | object above => exact congrArg Json.object (ordered above rfl).ordered_eq
          | _ => rfl

/-! ## Three objects -/

/-- Of three objects the upper two or the lower two can be combined first. -/
theorem merge_objects_assoc (bottom middle top : List (String × Json)) :
    merge (some (merge (some (.object bottom)) (some (.object middle)))) (some (.object top)) =
      merge (some (.object bottom))
        (some (merge (some (.object middle)) (some (.object top)))) := by
  apply ofMembers_congr
  intro name
  rw [Entries.find?_append, Entries.find?_ordered, Entries.find?_append, Entries.find?_append,
    Entries.find?_ordered, Entries.find?_append, Option.or_assoc]

end Settings

open Settings

/-- A call with the settings of the formatter already put below those of the call is the call
itself. -/
theorem Context.format_merge {context : Context} {name : String}
    (ordered : InOrder (context.settings.get? name)) (value : Value) (upper : Option Settings) :
    context.format name value (some (.merge (context.settings.get? name) upper)) =
      context.format name value upper := by
  unfold format
  rw [ordered.merge_merge]

namespace Settings

/-- **Settings put over settings.** Putting settings over others a second time changes nothing, so
a formatter writes the same for a call whose settings already lie over its own, even if missing ones
are made an empty object before. Of three objects it makes no difference which two are combined
first, and a name has the value of the last object with that name, as a whole: objects below it are
not looked into. Everything that is read from a text is in order, and putting settings over others
keeps them so. -/
theorem merge_absorbs_and_composes :
    (∀ lower upper : Option Settings, InOrder lower →
      merge lower (some (merge lower upper)) = merge lower upper ∧
        (InOrder upper → InOrder (some (merge lower upper)))) ∧
    (∀ (scope : Scope) (name : String) (value : Value) (upper : Option Settings),
      InOrder (scope.settings.get? name) →
        scope.format name value (some (merge (scope.settings.get? name) upper)) =
          scope.format name value upper ∧
        (InOrder upper →
          scope.format name value (some (merge (some (scope.settingsOf name)) upper)) =
            scope.format name value upper)) ∧
    (∀ bottom middle top : List (String × Json),
      let upperTwo := merge (some (.object middle)) (some (.object top))
      let lowerTwo := merge (some (.object bottom)) (some (.object middle))
      let all := merge (some (.object bottom)) (some upperTwo)
      merge (some lowerTwo) (some (.object top)) = all ∧ all.isObject = true ∧
        ∀ name, all.member? name = (Json.member? name (.object top)).or
          ((Json.member? name (.object middle)).or (Json.member? name (.object bottom)))) ∧
    ∀ text json, Json.read text = .ok json → InOrder (some json) := by
  refine ⟨?_, ?_, ?_, fun _ _ => inOrder_of_read⟩
  · intro lower upper ordered
    exact ⟨ordered.merge_merge upper, inOrder_merge ordered⟩
  · intro scope name value upper ordered
    have merged : scope.format name value (some (merge (scope.settings.get? name) upper)) =
        scope.format name value upper := Context.format_merge ordered value upper
    refine ⟨merged, fun given => ?_⟩
    have same : merge (some (scope.settingsOf name)) upper =
        merge (scope.settings.get? name) upper := given.merge_getD _
    rw [same, merged]
  · intro bottom middle top upperTwo lowerTwo all
    have isObject : ∀ members, ObjectIfAny (some (.object members)) :=
      fun members => objectIfAny_some.mpr rfl
    exact ⟨merge_objects_assoc bottom middle top,
      (isObject bottom).member?_layers (isObject middle) (isObject top)⟩

/-- An object below another of the same name is replaced, and what it held does not come back. -/
theorem merge_absorbs_and_composes_nested :
    let lower := some (Json.ofMembers
      [("unit", .object [("long", .string "metre")]), ("digits", .integer 2)])
    let upper := some (Json.ofMembers [("unit", .object [("short", .string "m")])])
    InOrder lower ∧ merge lower (some (merge lower upper)) = merge lower upper ∧
      (merge lower upper).member? "unit" = some (.object [("short", .string "m")]) ∧
      (merge lower upper).member? "digits" = some (.integer 2) := by
  intro lower upper
  have ordered : InOrder lower := inOrder_ofMembers _
  exact ⟨ordered, (merge_absorbs_and_composes.1 lower upper ordered).1, rfl, rfl⟩

end Settings

end Phrasebook
