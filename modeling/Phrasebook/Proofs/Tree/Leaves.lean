import Phrasebook.PhraseTree
import Phrasebook.Proofs.Table
import Mathlib

/-!
# The leaves of a phrase tree

`leaves` lists the texts of a tree with the names on the way to each, and `key` joins such a way
with dots. Flattening is told in these words (`flatten_eq_ok_iff`): it succeeds on trees of
objects and texts, and the table that it gives holds the leaves under their keys, of leaves with
one key the last.

No leaf is lost if the keys are all different, and they are if no name contains a dot
(`nodup_keys`): then a key can be taken apart again in one way only.
-/

namespace Phrasebook

namespace PhraseTree

mutual

/-- The texts at and below a document in the order of the visit, each with the names on the way
to it. -/
def leaves : Json → List (List String × String)
  | .string text => [([], text)]
  | .object members => memberLeaves members
  | _ => []

def memberLeaves : List (String × Json) → List (List String × String)
  | [] => []
  | (name, json) :: rest =>
    (leaves json).map (fun leaf => (name :: leaf.1, leaf.2)) ++ memberLeaves rest

end

mutual

/-- Whether a document is made of objects and texts only. -/
def isPhrases : Json → Bool
  | .string _ => true
  | .object members => arePhrases members
  | _ => false

def arePhrases : List (String × Json) → Bool
  | [] => true
  | (_, json) :: rest => isPhrases json && arePhrases rest

end

/-- The names of a way, joined by dots. -/
def key (path : List String) : String := ".".intercalate path

/-- The leaves of a document under their keys. -/
def keyed (json : Json) : Entries String := (leaves json).map fun leaf => (key leaf.1, leaf.2)

theorem key_cons {path : List String} (name : String) (below : path ≠ []) :
    key (name :: path) = name ++ "." ++ key path :=
  String.intercalate_cons_of_ne_nil below

/-- Behind a key that is joined to a name the way goes on as it would from the name. -/
theorem key_joinKey (above : Option String) (name : String) (path : List String) :
    key (joinKey above name :: path) = key (above.toList ++ name :: path) := by
  cases above with
  | none => rfl
  | some above =>
      simp only [joinKey, key, Option.toList_some, List.singleton_append,
        String.intercalate_cons_append, String.intercalate_cons_cons]

/-! ## Flattening -/

theorem leavesOf_cons_eq_ok_iff {above : Option String} {name : String} {json : Json}
    {rest : List (String × Json)} {found : Entries String} :
    leavesOf above ((name, json) :: rest) = .ok found ↔
      ∃ front others, leavesAt (joinKey above name) json = .ok front ∧
        leavesOf above rest = .ok others ∧ found = front ++ others := by
  rw [leavesOf]
  cases leavesAt (joinKey above name) json <;> cases leavesOf above rest <;> simp [eq_comm]

mutual

theorem leavesAt_eq_ok_iff (start : String) : (json : Json) → {found : Entries String} →
    (leavesAt start json = .ok found ↔
      isPhrases json = true ∧ found = (leaves json).map fun leaf => (key (start :: leaf.1), leaf.2))
  | .string text, found => by
      simp [leavesAt, isPhrases, leaves, key, eq_comm]
  | .object members, found => by
      simp only [leavesAt, isPhrases, leaves]
      exact leavesOf_eq_ok_iff (some start) members
  | .null, _ | .bool _, _ | .integer _, _ | .float _, _ | .array _, _ => by
      simp [leavesAt, isPhrases]

theorem leavesOf_eq_ok_iff (above : Option String) : (members : List (String × Json)) →
    {found : Entries String} → (leavesOf above members = .ok found ↔
      arePhrases members = true ∧
        found = (memberLeaves members).map fun leaf => (key (above.toList ++ leaf.1), leaf.2))
  | [], found => by
      simp [leavesOf, arePhrases, memberLeaves, eq_comm]
  | (name, json) :: rest, found => by
      rw [leavesOf_cons_eq_ok_iff]
      simp only [leavesAt_eq_ok_iff _ json, leavesOf_eq_ok_iff above rest, arePhrases,
        memberLeaves, Bool.and_eq_true, List.map_append, List.map_map, Function.comp_def,
        key_joinKey]
      constructor
      · rintro ⟨front, others, ⟨here, rfl⟩, ⟨behind, rfl⟩, rfl⟩
        exact ⟨⟨here, behind⟩, rfl⟩
      · rintro ⟨⟨here, behind⟩, rfl⟩
        exact ⟨_, _, ⟨here, rfl⟩, ⟨behind, rfl⟩, rfl⟩

end

/-- Flattening succeeds on objects of phrases, and gives their leaves under their keys. -/
theorem flatten_eq_ok_iff {locale : String} {tree : Json} {texts : Table String} :
    flatten locale tree = .ok texts ↔
      tree.isObject = true ∧ isPhrases tree = true ∧ texts = .ofEntries (keyed tree) := by
  cases tree with
  | object members =>
      simp only [flatten, Json.isObject, isPhrases, keyed, leaves, true_and]
      cases found : leavesOf none members with
      | error error =>
          have absent : ¬ arePhrases members = true := by
            intro good
            have success := (leavesOf_eq_ok_iff none members).mpr ⟨good, rfl⟩
            rw [found] at success
            cases success
          simp [Except.map, absent]
      | ok entries =>
          obtain ⟨good, rfl⟩ := (leavesOf_eq_ok_iff none members).mp found
          simp [Except.map, good, eq_comm]
  | _ => simp [flatten, Json.isObject]

/-- The texts of a tree do not depend on the locale that they are for. -/
theorem flatten_locale {locale : String} {tree : Json} {texts : Table String}
    (accepted : flatten locale tree = .ok texts) (other : String) :
    flatten other tree = .ok texts :=
  flatten_eq_ok_iff.mpr (flatten_eq_ok_iff.mp accepted)

theorem leavesOf_cons_eq_error_iff {above : Option String} {name : String} {json : Json}
    {rest : List (String × Json)} {error : TreeError} :
    leavesOf above ((name, json) :: rest) = .error error ↔
      leavesAt (joinKey above name) json = .error error ∨
        (∃ front, leavesAt (joinKey above name) json = .ok front) ∧
          leavesOf above rest = .error error := by
  rw [leavesOf]
  cases leavesAt (joinKey above name) json <;> cases leavesOf above rest <;> simp

mutual

/-- Only a leaf can be wrong below the root. -/
theorem invalidLeaf_of_leavesAt (start : String) : (json : Json) → {error : TreeError} →
    leavesAt start json = .error error → ∃ key kind, error = .invalidLeaf key kind
  | .string _, _, failed => by cases failed
  | .object members, _, failed => invalidLeaf_of_leavesOf (some start) members failed
  | .null, _, failed | .bool _, _, failed | .integer _, _, failed | .float _, _, failed
  | .array _, _, failed => by
      cases failed
      exact ⟨_, _, rfl⟩

theorem invalidLeaf_of_leavesOf (above : Option String) : (members : List (String × Json)) →
    {error : TreeError} → leavesOf above members = .error error →
    ∃ key kind, error = .invalidLeaf key kind
  | [], _, failed => by cases failed
  | (_, json) :: rest, _, failed =>
      match leavesOf_cons_eq_error_iff.mp failed with
      | .inl here => invalidLeaf_of_leavesAt _ json here
      | .inr ⟨_, behind⟩ => invalidLeaf_of_leavesOf above rest behind

end

/-- A tree that is refused for its root is no object, and is refused for every locale. -/
theorem flatten_invalidRoot {locale named kind : String} {tree : Json}
    (refused : flatten locale tree = .error (.invalidRoot named kind)) (other : String) :
    flatten other tree = .error (.invalidRoot other kind) := by
  cases tree with
  | object members =>
      rw [flatten] at refused
      cases found : leavesOf none members with
      | error error =>
          obtain ⟨key, kind, rfl⟩ := invalidLeaf_of_leavesOf none members found
          rw [found] at refused
          cases refused
      | ok entries =>
          rw [found] at refused
          cases refused
  | _ => simp_all [flatten]

/-- A leaf that is no text is refused for every locale. -/
theorem flatten_invalidLeaf {locale key kind : String} {tree : Json}
    (refused : flatten locale tree = .error (.invalidLeaf key kind)) (other : String) :
    flatten other tree = .error (.invalidLeaf key kind) := by
  cases tree <;> simp_all [flatten]

/-! ## Ways and keys -/

mutual

/-- The members of every object at and below a document. -/
def objects : Json → List (List (String × Json))
  | .object members => members :: memberObjects members
  | _ => []

def memberObjects : List (String × Json) → List (List (String × Json))
  | [] => []
  | (_, json) :: rest => objects json ++ memberObjects rest

end

/-- No name in a document contains a dot. -/
def DotFree (json : Json) : Prop :=
  ∀ members ∈ objects json, ∀ member ∈ members, '.' ∉ member.1.toList

/-- No object in a document has two members with one name. -/
def Distinct (json : Json) : Prop := ∀ members ∈ objects json, (members.map (·.1)).Nodup

instance (json : Json) : Decidable (DotFree json) := inferInstanceAs (Decidable (∀ _ ∈ _, _))

instance (json : Json) : Decidable (Distinct json) := inferInstanceAs (Decidable (∀ _ ∈ _, _))

/-- Reasoning about a document along its members. -/
@[elab_as_elim]
theorem member_induction {motive : Json → Prop}
    (object : ∀ members, (∀ member ∈ members, motive member.2) → motive (.object members))
    (other : ∀ json, json.isObject = false → motive json) (json : Json) : motive json := by
  cases json with
  | object members =>
      exact object members fun member inside => member_induction object other member.2
  | _ => exact other _ rfl
termination_by sizeOf json
decreasing_by
  have smaller := List.sizeOf_lt_of_mem inside
  obtain ⟨name, json⟩ := member
  simp only [Prod.mk.sizeOf_spec, Json.object.sizeOf_spec] at *
  omega

theorem mem_memberLeaves_iff {members : List (String × Json)} {path : List String}
    {text : String} :
    (path, text) ∈ memberLeaves members ↔
      ∃ name json below, (name, json) ∈ members ∧ (below, text) ∈ leaves json ∧
        path = name :: below := by
  induction members with
  | nil => simp [memberLeaves]
  | cons member rest ih =>
      obtain ⟨first, inner⟩ := member
      rw [memberLeaves, List.mem_append, ih]
      constructor
      · rintro (here | ⟨name, json, below, member, leaf, same⟩)
        · obtain ⟨⟨below, text⟩, leaf, same⟩ := List.mem_map.mp here
          cases same
          exact ⟨first, inner, below, List.mem_cons_self, leaf, rfl⟩
        · exact ⟨name, json, below, List.mem_cons_of_mem _ member, leaf, same⟩
      · rintro ⟨name, json, below, member, leaf, rfl⟩
        rcases List.mem_cons.mp member with here | later
        · cases here
          exact .inl (List.mem_map.mpr ⟨_, leaf, rfl⟩)
        · exact .inr ⟨name, json, below, later, leaf, rfl⟩

/-- What holds of all objects in a document holds of its own members and below each of them. -/
theorem forall_objects_iff {members : List (String × Json)}
    {holds : List (String × Json) → Prop} :
    (∀ object ∈ objects (.object members), holds object) ↔
      holds members ∧ ∀ member ∈ members, ∀ object ∈ objects member.2, holds object := by
  have below : ∀ object, object ∈ memberObjects members ↔
      ∃ member ∈ members, object ∈ objects member.2 := by
    intro object
    induction members with
    | nil => simp [memberObjects]
    | cons member rest ih => simp [memberObjects, ih]
  constructor
  · intro all
    refine ⟨all members List.mem_cons_self, fun member inside object lower => ?_⟩
    exact all object (List.mem_cons_of_mem _ ((below object).mpr ⟨member, inside, lower⟩))
  · rintro ⟨here, lower⟩ object inside
    rcases List.mem_cons.mp inside with rfl | deeper
    · exact here
    · obtain ⟨member, inside, deeper⟩ := (below object).mp deeper
      exact lower member inside object deeper

theorem leaves_of_not_object {json : Json} (plain : json.isObject = false) {path : List String}
    {text : String} (leaf : (path, text) ∈ leaves json) : path = [] := by
  cases json with
  | string => simpa [leaves] using congrArg Prod.fst (List.mem_singleton.mp leaf)
  | object => cases plain
  | _ => exact absurd leaf List.not_mem_nil

/-- The names on the way to a leaf are names of the document. -/
theorem DotFree.path {json : Json} (undotted : DotFree json) {path : List String} {text : String}
    (leaf : (path, text) ∈ leaves json) : ∀ name ∈ path, '.' ∉ name.toList := by
  induction json using member_induction generalizing path with
  | object members ih =>
      obtain ⟨here, below⟩ := forall_objects_iff.mp undotted
      obtain ⟨first, inner, rest, member, deeper, rfl⟩ := mem_memberLeaves_iff.mp leaf
      intro name inside
      rcases List.mem_cons.mp inside with rfl | inside
      · exact here _ member
      · exact ih _ member (below _ member) deeper name inside
  | other json plain =>
      rw [leaves_of_not_object plain leaf]
      exact nofun

theorem nodup_memberLeaves {members : List (String × Json)}
    (different : (members.map (·.1)).Nodup)
    (below : ∀ member ∈ members, ((leaves member.2).map (·.1)).Nodup) :
    ((memberLeaves members).map (·.1)).Nodup := by
  induction members with
  | nil => exact List.nodup_nil
  | cons member rest ih =>
      obtain ⟨name, json⟩ := member
      rw [List.map_cons, List.nodup_cons] at different
      have first := below _ List.mem_cons_self
      have behind := ih different.2 fun member inside =>
        below member (List.mem_cons_of_mem _ inside)
      simp only [memberLeaves, List.map_append, List.map_map, Function.comp_def]
      refine List.nodup_append.mpr ⟨?_, behind, ?_⟩
      · simpa [Function.comp_def] using first.map (List.cons_injective (a := name))
      · -- Every way behind goes through a member with another name.
        rintro path inside other later rfl
        obtain ⟨leaf, -, rfl⟩ := List.mem_map.mp inside
        obtain ⟨⟨other, text⟩, found, whole⟩ := List.mem_map.mp later
        obtain ⟨second, json, lower, member, -, rfl⟩ := mem_memberLeaves_iff.mp found
        obtain ⟨rfl, -⟩ := List.cons.inj whole
        exact different.1 (List.mem_map.mpr ⟨_, member, rfl⟩)

/-- No two leaves have the same way. -/
theorem Distinct.nodup_paths {json : Json} (distinct : Distinct json) :
    ((leaves json).map (·.1)).Nodup := by
  induction json using member_induction with
  | object members ih =>
      obtain ⟨here, below⟩ := forall_objects_iff.mp distinct
      exact nodup_memberLeaves here fun member inside => ih member inside (below member inside)
  | other json plain =>
      cases json with
      | object => cases plain
      | _ => simp [leaves]

/-- The ways with dot-free names are told apart by their keys. -/
theorem key_inj {path other : List String} (undotted : ∀ name ∈ path, '.' ∉ name.toList)
    (otherUndotted : ∀ name ∈ other, '.' ∉ name.toList) (nonempty : path ≠ [])
    (otherNonempty : other ≠ []) (same : key path = key other) : path = other := by
  -- A key that is cut at its dots falls into the names that it was joined from.
  have cut : ∀ {path : List String}, (∀ name ∈ path, '.' ∉ name.toList) → path ≠ [] →
      (key path).toList.splitOn '.' = path.map String.toList := by
    intro path undotted nonempty
    rw [key, String.toList_intercalate]
    refine List.splitOn_intercalate '.' ?_ (by simpa using nonempty)
    intro chars inside
    obtain ⟨name, member, rfl⟩ := List.mem_map.mp inside
    exact undotted name member
  have names := cut undotted nonempty
  rw [same, cut otherUndotted otherNonempty] at names
  exact (List.map_injective_iff.mpr fun _ _ => String.toList_injective) names.symm

/-- Every leaf has a key of its own if the names tell the ways apart. -/
theorem nodup_keys {tree : Json} (object : tree.isObject = true) (distinct : Distinct tree)
    (undotted : DotFree tree) : ((leaves tree).map fun leaf => key leaf.1).Nodup := by
  have nonempty : ∀ leaf ∈ leaves tree, leaf.1 ≠ [] := by
    rintro ⟨path, text⟩ member
    cases tree with
    | object members =>
        obtain ⟨name, json, below, -, -, rfl⟩ := mem_memberLeaves_iff.mp member
        exact List.cons_ne_nil _ _
    | _ => cases object
  have paths := distinct.nodup_paths
  rw [show (leaves tree).map (fun leaf => key leaf.1) = ((leaves tree).map (·.1)).map key by simp]
  refine paths.map_on ?_
  intro path inside other otherInside same
  obtain ⟨leaf, member, rfl⟩ := List.mem_map.mp inside
  obtain ⟨otherLeaf, otherMember, rfl⟩ := List.mem_map.mp otherInside
  exact key_inj (undotted.path member) (undotted.path otherMember) (nonempty _ member)
    (nonempty _ otherMember) same

end PhraseTree

end Phrasebook
