import Phrasebook.Proofs.Tree.Leaves
import Phrasebook.Text.Position

/-!
# Trees in trees

The keys of a tree below a way are those of the tree at the end of the way, each behind the key of
the way and a dot (`find?_keyed_of_reaches`). One step of the way carries it: names without dots
are cut off a key in one way only, so nothing beside the way has a key that begins with it.
-/

namespace Phrasebook

namespace Text

/-- A text is cut behind as much of it as is free of the mark. -/
theorem cut?_append {mark : Char} {front : List Char} (absent : mark ∉ front)
    (rest : List Char) : cut? mark (front ++ mark :: rest) = some (front, rest) := by
  induction front with
  | nil => simp [cut?]
  | cons c front ih =>
      have different : ¬ c = mark := fun same => absent (same ▸ List.mem_cons_self)
      have others : mark ∉ front := fun inside => absent (List.mem_cons_of_mem _ inside)
      simp [cut?, different, ih others]

theorem cut?_eq_some_iff {mark : Char} {text front rest : List Char} :
    cut? mark text = some (front, rest) ↔ mark ∉ front ∧ text = front ++ mark :: rest := by
  constructor
  · intro cut
    induction text generalizing front with
    | nil => cases cut
    | cons c text ih =>
        rw [cut?] at cut
        split at cut
        · rename_i same
          cases cut
          exact ⟨List.not_mem_nil, by rw [same]; rfl⟩
        · rename_i different
          obtain ⟨⟨before, behind⟩, inner, same⟩ := Option.map_eq_some_iff.mp cut
          cases same
          obtain ⟨absent, rfl⟩ := ih inner
          refine ⟨?_, rfl⟩
          rw [List.mem_cons, not_or]
          exact ⟨fun same => different same.symm, absent⟩
  · rintro ⟨absent, rfl⟩
    exact cut?_append absent rest

end Text

namespace PhraseTree

/-- A document is reached from another one by a way through members, each of them the only one of
its name. -/
inductive Reaches : List String → Json → Json → Prop
  | here {json : Json} : Reaches [] json json
  | member {name : String} {path : List String} {front back : List (String × Json)}
      {below inner : Json} : (∀ member ∈ front ++ back, member.1 ≠ name) →
      Reaches path below inner →
      Reaches (name :: path) (.object (front ++ (name, below) :: back)) inner

/-! ## Cutting keys -/

theorem toList_dot_append (name rest : String) :
    (name ++ "." ++ rest).toList = name.toList ++ '.' :: rest.toList := by
  simp

theorem dot_append_inj {name other rest otherRest : String} (undotted : '.' ∉ name.toList)
    (otherUndotted : '.' ∉ other.toList) (same : name ++ "." ++ rest = other ++ "." ++ otherRest) :
    name = other ∧ rest = otherRest := by
  have cut := Text.cut?_append undotted rest.toList
  rw [← toList_dot_append, same, toList_dot_append, Text.cut?_append otherUndotted] at cut
  simp only [Option.some.injEq, Prod.mk.injEq, String.toList_inj] at cut
  exact ⟨cut.1.symm, cut.2.symm⟩

/-- A key that begins with a name and a dot is that of a way from the name on. -/
theorem head_of_key_eq {name first rest : String} {path : List String}
    (undotted : '.' ∉ name.toList) (firstUndotted : '.' ∉ first.toList)
    (same : key (first :: path) = name ++ "." ++ rest) : first = name := by
  cases path with
  | nil =>
      -- The key is the name alone, and there is no dot in it.
      have alone : first = name ++ "." ++ rest := same
      rw [alone, toList_dot_append] at firstUndotted
      exact absurd (List.mem_append_right _ List.mem_cons_self) firstUndotted
  | cons second path =>
      rw [key_cons first (List.cons_ne_nil _ _)] at same
      exact (dot_append_inj firstUndotted undotted same).1

/-! ## Members -/

theorem arePhrases_iff {members : List (String × Json)} :
    arePhrases members = true ↔ ∀ member ∈ members, isPhrases member.2 = true := by
  induction members with
  | nil => simp [arePhrases]
  | cons member rest ih => simp [arePhrases, ih]

theorem memberLeaves_append (front back : List (String × Json)) :
    memberLeaves (front ++ back) = memberLeaves front ++ memberLeaves back := by
  induction front with
  | nil => rfl
  | cons member front ih => simp [memberLeaves, ih]

/-- The leaves of members under their keys. -/
def memberKeyed (members : List (String × Json)) : Entries String :=
  (memberLeaves members).map fun leaf => (key leaf.1, leaf.2)

/-- No other member has a key that begins with a name and a dot. -/
theorem find?_memberKeyed_of_apart {members : List (String × Json)} {name : String}
    (rest : String) (apart : ∀ member ∈ members, member.1 ≠ name) (undotted : '.' ∉ name.toList)
    (undottedMembers : ∀ member ∈ members, '.' ∉ member.1.toList) :
    Entries.find? (name ++ "." ++ rest) (memberKeyed members) = none := by
  refine Entries.find?_eq_none_iff.mpr ?_
  intro entry inside same
  obtain ⟨⟨path, text⟩, leaf, rfl⟩ := List.mem_map.mp inside
  obtain ⟨first, json, below, member, -, rfl⟩ := mem_memberLeaves_iff.mp leaf
  exact apart _ member (head_of_key_eq undotted (undottedMembers _ member) same)

/-- The keys in an object begin with its name and a dot. -/
theorem memberKeyed_singleton {name : String} {members : List (String × Json)} :
    memberKeyed [(name, .object members)] =
      (keyed (.object members)).map fun entry => (name ++ "." ++ entry.1, entry.2) := by
  simp only [memberKeyed, keyed, memberLeaves, List.append_nil, List.map_map]
  refine List.map_congr_left ?_
  rintro ⟨path, text⟩ leaf
  obtain ⟨first, json, below, -, -, rfl⟩ := mem_memberLeaves_iff.mp leaf
  simp [key_cons name (List.cons_ne_nil first below)]

/-- Below the only member of its name the keys of an object are those of the member. -/
theorem find?_keyed_member {name : String} {front back members : List (String × Json)}
    (alone : ∀ member ∈ front ++ back, member.1 ≠ name) (undotted : '.' ∉ name.toList)
    (undottedMembers : ∀ member ∈ front ++ back, '.' ∉ member.1.toList) (rest : String) :
    Entries.find? (name ++ "." ++ rest)
        (keyed (.object (front ++ (name, .object members) :: back))) =
      Entries.find? rest (keyed (.object members)) := by
  have split : keyed (.object (front ++ (name, .object members) :: back)) =
      memberKeyed front ++ (memberKeyed [(name, .object members)] ++ memberKeyed back) := by
    simp [keyed, leaves, memberKeyed, memberLeaves_append, memberLeaves]
  have before := find?_memberKeyed_of_apart rest
    (fun member inside => alone member (List.mem_append_left _ inside)) undotted
    (fun member inside => undottedMembers member (List.mem_append_left _ inside))
  have behind := find?_memberKeyed_of_apart rest
    (fun member inside => alone member (List.mem_append_right _ inside)) undotted
    (fun member inside => undottedMembers member (List.mem_append_right _ inside))
  have injective : Function.Injective fun rest => name ++ "." ++ rest :=
    fun _ _ same => (dot_append_inj undotted undotted same).2
  rw [split, Entries.find?_append, Entries.find?_append, before, behind, Option.or_none,
    Option.none_or, memberKeyed_singleton]
  exact Entries.find?_map_names injective rest _

/-! ## Ways -/

theorem Reaches.isObject {path : List String} {json inner : Json}
    (reaches : Reaches path json inner) (object : inner.isObject = true) :
    json.isObject = true := by
  cases reaches with
  | here => exact object
  | member => rfl

theorem Reaches.isPhrases {path : List String} {json inner : Json}
    (reaches : Reaches path json inner) (phrases : isPhrases json = true) :
    PhraseTree.isPhrases inner = true := by
  induction reaches with
  | here => exact phrases
  | member _ _ ih =>
      rw [PhraseTree.isPhrases, arePhrases_iff] at phrases
      exact ih (phrases _ (List.mem_append_right _ List.mem_cons_self))

/-- Below the way to an object the keys of a tree are those of the object. -/
theorem find?_keyed_of_reaches {path : List String} {tree inner : Json}
    (reaches : Reaches path tree inner) (nonempty : path ≠ []) (object : inner.isObject = true)
    (undotted : DotFree tree) (rest : String) :
    Entries.find? (key path ++ "." ++ rest) (keyed tree) = Entries.find? rest (keyed inner) := by
  induction reaches with
  | here => exact absurd rfl nonempty
  | @member name path front back below inner alone reaches ih =>
      obtain ⟨here, lower⟩ := forall_objects_iff.mp undotted
      have inside : (name, below) ∈ front ++ (name, below) :: back :=
        List.mem_append_right _ List.mem_cons_self
      have others : ∀ member ∈ front ++ back, '.' ∉ member.1.toList := by
        intro member beside
        refine here member ?_
        rcases List.mem_append.mp beside with before | behind
        · exact List.mem_append_left _ before
        · exact List.mem_append_right _ (List.mem_cons_of_mem _ behind)
      have between := reaches.isObject object
      cases below with
      | object members =>
          cases path with
          | nil =>
              cases reaches
              exact find?_keyed_member alone (here _ inside) others rest
          | cons second path =>
              have further := ih (List.cons_ne_nil _ _) object (lower _ inside)
              have joined : key (name :: second :: path) ++ "." ++ rest =
                  name ++ "." ++ (key (second :: path) ++ "." ++ rest) := by
                simp only [key_cons name (List.cons_ne_nil second path), String.append_assoc]
              rw [joined, find?_keyed_member alone (here _ inside) others, further]
      | _ => cases between

end PhraseTree

end Phrasebook
