import Phrasebook.Proofs.Book.PhraseCount
import Phrasebook.Proofs.Json.Documents

/-!
# The order of a visit

Where the members of every object are in ascending order, flattening visits a tree in the order of
its ways: of two values that are no objects, the one with the lexicographically smaller way comes
first, names being compared byte by byte (`pairwise_ends`). So the outcome can be told from the
values and their ways alone (`flatten_visits_in_order`): the text of a key is that of the greatest
way with the key, and the leaf that is reported is the one with the smallest way. The order in
which the members were written has no part in it, because every tree that is read from a text has
its members in order (`ordered_of_read`).
-/

namespace Phrasebook

def Json.isText : Json → Bool
  | .string _ => true
  | _ => false

/-- The kind of a document as it is worded; whole numbers and doubles are of one kind. -/
inductive Json.IsOfKind : Json → String → Prop
  | null : IsOfKind .null "null"
  | bool {value : Bool} : IsOfKind (.bool value) "a boolean"
  | integer {value : Int} : IsOfKind (.integer value) "a number"
  | float {value : Double} : IsOfKind (.float value) "a number"
  | string {text : String} : IsOfKind (.string text) "a string"
  | array {items : List Json} : IsOfKind (.array items) "an array"
  | object {members : List (String × Json)} : IsOfKind (.object members) "an object"

theorem Json.isOfKind_iff {json : Json} {kind : String} :
    json.IsOfKind kind ↔ json.kindName = kind := by
  constructor
  · intro named
    cases named <;> rfl
  · rintro rfl
    cases json with
    | null => exact .null
    | bool value => exact .bool
    | integer value => exact .integer
    | float value => exact .float
    | string text => exact .string
    | array items => exact .array
    | object members => exact .object

namespace PhraseTree

/-- A value that is no object stands at the end of a way through members. -/
inductive Ends : Json → List String → Json → Prop
  | here {value : Json} : value.isObject = false → Ends value [] value
  | member {members : List (String × Json)} {name : String} {path : List String}
      {below value : Json} : (name, below) ∈ members → Ends below path value →
      Ends (.object members) (name :: path) value

/-- Every object of a tree has its members in ascending order, each name once. -/
def Ordered (tree : Json) : Prop := ∀ members ∈ objects tree, Entries.Ascending members

instance (members : List (String × Json)) : Decidable (Entries.Ascending members) :=
  inferInstanceAs (Decidable (List.Pairwise _ _))

instance (tree : Json) : Decidable (Ordered tree) := inferInstanceAs (Decidable (∀ _ ∈ _, _))

/-- What is read from a text is in order, whatever the order in the text. -/
theorem ordered_of_read {text : String} {tree : Json} (read : Json.read text = .ok tree) :
    Ordered tree := by
  have hereditary : Json.Hereditary Ordered := by
    apply Json.Hereditary.of_objects
    · intro json plain members inside
      cases json <;> first | exact absurd inside List.not_mem_nil | cases plain
    · intro members ordered
      refine forall_objects_iff.mpr ⟨Entries.Ascending.ordered members, fun member inside => ?_⟩
      exact ordered member (Entries.mem_of_mem_ordered inside)
  exact hereditary.of_read read

/-! ## The values in the order of the visit -/

mutual

/-- The values at and below a document that are no objects, in the order of the visit, each with
the names on the way to it. -/
def ends : Json → List (List String × Json)
  | .object members => memberEnds members
  | json => [([], json)]

def memberEnds : List (String × Json) → List (List String × Json)
  | [] => []
  | (name, json) :: rest =>
    (ends json).map (fun found => (name :: found.1, found.2)) ++ memberEnds rest

end

theorem mem_memberEnds_iff {members : List (String × Json)} {path : List String} {value : Json} :
    (path, value) ∈ memberEnds members ↔
      ∃ name json below, (name, json) ∈ members ∧ (below, value) ∈ ends json ∧
        path = name :: below := by
  induction members with
  | nil => simp [memberEnds]
  | cons member rest ih =>
      obtain ⟨first, inner⟩ := member
      rw [memberEnds, List.mem_append, ih]
      constructor
      · rintro (here | ⟨name, json, below, member, found, same⟩)
        · obtain ⟨⟨below, value⟩, found, same⟩ := List.mem_map.mp here
          cases same
          exact ⟨first, inner, below, List.mem_cons_self, found, rfl⟩
        · exact ⟨name, json, below, List.mem_cons_of_mem _ member, found, same⟩
      · rintro ⟨name, json, below, member, found, rfl⟩
        rcases List.mem_cons.mp member with here | later
        · cases here
          exact .inl (List.mem_map.mpr ⟨_, found, rfl⟩)
        · exact .inr ⟨name, json, below, later, found, rfl⟩

theorem mem_ends_iff {json : Json} {path : List String} {value : Json} :
    (path, value) ∈ ends json ↔ Ends json path value := by
  induction json using member_induction generalizing path with
  | object members ih =>
      rw [ends, mem_memberEnds_iff]
      constructor
      · rintro ⟨name, below, rest, member, found, rfl⟩
        exact .member member ((ih _ member).mp found)
      · intro reached
        cases reached with
        | here plain => cases plain
        | member member below => exact ⟨_, _, _, member, (ih _ member).mpr below, rfl⟩
  | other json plain =>
      have alone : ends json = [([], json)] := by
        cases json <;> first | rfl | cases plain
      rw [alone, List.mem_singleton]
      constructor
      · intro same
        cases same
        exact .here plain
      · intro reached
        cases reached with
        | here => rfl
        | member => cases plain

theorem pairwise_memberEnds {members : List (String × Json)} (ascending : Entries.Ascending members)
    (below : ∀ member ∈ members, (ends member.2).Pairwise fun earlier later =>
      earlier.1 < later.1) :
    (memberEnds members).Pairwise fun earlier later => earlier.1 < later.1 := by
  induction members with
  | nil => exact .nil
  | cons member rest ih =>
      obtain ⟨name, json⟩ := member
      obtain ⟨smaller, ascending⟩ := List.pairwise_cons.mp ascending
      obtain ⟨first, below⟩ := List.forall_mem_cons.mp below
      refine List.pairwise_append.mpr ⟨?_, ih ascending below, ?_⟩
      · exact List.pairwise_map.mpr (first.imp fun less => List.Lex.cons less)
      · -- The names of the members tell the ways apart.
        rintro ⟨path, value⟩ inside ⟨other, otherValue⟩ later
        obtain ⟨found, -, same⟩ := List.mem_map.mp inside
        obtain ⟨second, inner, behind, member, -, rfl⟩ := mem_memberEnds_iff.mp later
        cases same
        exact List.Lex.rel (smaller _ member)

/-- The visit goes through the ways in ascending order. -/
theorem pairwise_ends {json : Json} (ordered : Ordered json) :
    (ends json).Pairwise fun earlier later => earlier.1 < later.1 := by
  induction json using member_induction with
  | object members ih =>
      obtain ⟨here, below⟩ := forall_objects_iff.mp ordered
      exact pairwise_memberEnds here fun member inside => ih member inside (below member inside)
  | other json plain =>
      cases json <;> first | exact List.pairwise_singleton _ _ | cases plain

/-! ## Texts and other leaves -/

/-- The leaves of a tree are the texts among the values. -/
def leaf? (found : List String × Json) : Option (List String × String) :=
  found.2.string?.map fun text => (found.1, text)

theorem leaf?_eq_some_iff {found : List String × Json} {path : List String} {text : String} :
    leaf? found = some (path, text) ↔ found = (path, .string text) := by
  obtain ⟨way, value⟩ := found
  cases value <;> simp [leaf?, Json.string?]

theorem leaf?_member (name : String) (found : List String × Json) :
    leaf? (name :: found.1, found.2) = (leaf? found).map fun leaf => (name :: leaf.1, leaf.2) := by
  simp [leaf?, Function.comp_def]

mutual

theorem leaves_eq : (json : Json) → leaves json = (ends json).filterMap leaf?
  | .object members => memberLeaves_eq members
  | .string _ | .null | .bool _ | .integer _ | .float _ | .array _ => rfl

theorem memberLeaves_eq : (members : List (String × Json)) →
    memberLeaves members = (memberEnds members).filterMap leaf?
  | [] => rfl
  | (name, json) :: rest => by
      rw [memberLeaves, memberEnds, List.filterMap_append, ← memberLeaves_eq rest, leaves_eq json,
        List.filterMap_map, List.map_filterMap]
      simp only [Function.comp_def, leaf?_member]

end

theorem mem_leaves_iff {json : Json} {path : List String} {text : String} :
    (path, text) ∈ leaves json ↔ Ends json path (.string text) := by
  rw [leaves_eq, List.mem_filterMap, ← mem_ends_iff]
  simp only [leaf?_eq_some_iff, exists_eq_right]

theorem pairwise_leaves {json : Json} (ordered : Ordered json) :
    (leaves json).Pairwise fun earlier later => earlier.1 < later.1 := by
  rw [leaves_eq]
  refine (pairwise_ends ordered).filterMap leaf? ?_
  rintro found other less ⟨path, text⟩ here ⟨otherPath, otherText⟩ there
  rw [leaf?_eq_some_iff.mp here, leaf?_eq_some_iff.mp there] at less
  exact less

/-- The first value of a tree that is neither an object nor a text. -/
def stray? (values : List (List String × Json)) : Option (List String × Json) :=
  values.find? fun found => !found.2.isText

mutual

theorem isPhrases_iff : (json : Json) → (isPhrases json = true ↔ stray? (ends json) = none)
  | .object members => arePhrases_iff_stray members
  | .string _ | .null | .bool _ | .integer _ | .float _ | .array _ => by
      simp [isPhrases, ends, stray?, Json.isText]

theorem arePhrases_iff_stray : (members : List (String × Json)) →
    (arePhrases members = true ↔ stray? (memberEnds members) = none)
  | [] => by simp [arePhrases, memberEnds, stray?]
  | (name, json) :: rest => by
      rw [arePhrases, Bool.and_eq_true, isPhrases_iff json, arePhrases_iff_stray rest]
      simp [memberEnds, stray?]

end

theorem stray?_member (name : String) (json : Json) (rest : List (String × Json)) :
    stray? (memberEnds ((name, json) :: rest)) =
      ((stray? (ends json)).map fun found => (name :: found.1, found.2)).or
        (stray? (memberEnds rest)) := by
  rw [memberEnds, stray?, List.find?_append, List.find?_map]
  rfl

mutual

/-- A document is refused for its first stray value. -/
theorem leavesAt_eq_error_iff (start : String) : (json : Json) → {error : TreeError} →
    (leavesAt start json = .error error ↔
      ∃ found, stray? (ends json) = some found ∧
        error = .invalidLeaf (key (start :: found.1)) found.2.kindName)
  | .string _, _ => by simp [leavesAt, ends, stray?, Json.isText]
  | .object members, _ => leavesOf_eq_error_iff (some start) members
  | .null, _ | .bool _, _ | .integer _, _ | .float _, _ | .array _, _ => by
      simp [leavesAt, ends, stray?, Json.isText, key, eq_comm]

theorem leavesOf_eq_error_iff (above : Option String) : (members : List (String × Json)) →
    {error : TreeError} → (leavesOf above members = .error error ↔
      ∃ found, stray? (memberEnds members) = some found ∧
        error = .invalidLeaf (key (above.toList ++ found.1)) found.2.kindName)
  | [], _ => by simp [leavesOf, memberEnds, stray?]
  | (name, json) :: rest, _ => by
      rw [leavesOf_cons_eq_error_iff, leavesAt_eq_error_iff _ json,
        leavesOf_eq_error_iff above rest, stray?_member]
      have accepted : (∃ front, leavesAt (joinKey above name) json = .ok front) ↔
          stray? (ends json) = none := by
        rw [← isPhrases_iff json]
        simp [leavesAt_eq_ok_iff]
      rw [accepted]
      cases first : stray? (ends json) <;> simp [key_joinKey]

end

theorem flatten_eq_error_iff {locale : String} {tree : Json} (object : tree.isObject = true)
    {error : TreeError} :
    flatten locale tree = .error error ↔
      ∃ found, stray? (ends tree) = some found ∧
        error = .invalidLeaf (key found.1) found.2.kindName := by
  cases tree with
  | object members =>
      rw [flatten, map_eq_error_iff]
      exact leavesOf_eq_error_iff none members
  | _ => cases object

/-! ## The smallest and the greatest way -/

/-- In ascending order the first entry with a property is the one with the smallest way. -/
theorem find?_eq_some_iff_smallest {α : Type} {entries : List (List String × α)}
    (ascending : entries.Pairwise fun earlier later => earlier.1 < later.1)
    {wanted : List String × α → Bool} {found : List String × α} :
    entries.find? wanted = some found ↔
      found ∈ entries ∧ wanted found = true ∧
        ∀ other ∈ entries, wanted other = true → found.1 ≤ other.1 := by
  induction entries with
  | nil => simp
  | cons head rest ih =>
      obtain ⟨smaller, ascending⟩ := List.pairwise_cons.mp ascending
      by_cases first : wanted head = true
      · rw [List.find?_cons_of_pos first]
        constructor
        · intro same
          obtain rfl : head = found := Option.some.inj same
          refine ⟨List.mem_cons_self, first, fun other inside _ => ?_⟩
          rcases List.mem_cons.mp inside with rfl | later
          · exact le_rfl
          · exact (smaller other later).le
        · rintro ⟨inside, -, least⟩
          rcases List.mem_cons.mp inside with rfl | later
          · rfl
          · exact absurd (smaller found later) (not_lt.mpr (least head List.mem_cons_self first))
      · rw [List.find?_cons_of_neg first, ih ascending]
        constructor
        · rintro ⟨inside, fits, least⟩
          refine ⟨List.mem_cons_of_mem _ inside, fits, fun other member otherFits => ?_⟩
          rcases List.mem_cons.mp member with rfl | later
          · exact absurd otherFits first
          · exact least other later otherFits
        · rintro ⟨inside, fits, least⟩
          rcases List.mem_cons.mp inside with rfl | later
          · exact absurd fits first
          · exact ⟨later, fits, fun other member => least other (List.mem_cons_of_mem _ member)⟩

/-- In ascending order the last entry with a property is the one with the greatest way. -/
theorem last_iff_greatest {α : Type} {entries : List (List String × α)}
    (ascending : entries.Pairwise fun earlier later => earlier.1 < later.1)
    (wanted : List String → Prop) {path : List String} {value : α} :
    (∃ front back, entries = front ++ (path, value) :: back ∧ ∀ later ∈ back, ¬ wanted later.1) ↔
      (path, value) ∈ entries ∧ ∀ other ∈ entries, wanted other.1 → other.1 ≤ path := by
  constructor
  · rintro ⟨front, back, rfl, last⟩
    refine ⟨List.mem_append_right _ List.mem_cons_self, fun other inside fits => ?_⟩
    obtain ⟨-, -, before⟩ := List.pairwise_append.mp ascending
    rcases List.mem_append.mp inside with earlier | later
    · exact (before other earlier _ List.mem_cons_self).le
    · rcases List.mem_cons.mp later with rfl | later
      · exact le_rfl
      · exact absurd fits (last other later)
  · rintro ⟨inside, greatest⟩
    obtain ⟨front, back, rfl⟩ := List.append_of_mem inside
    refine ⟨front, back, rfl, fun later member fits => ?_⟩
    obtain ⟨-, behind, -⟩ := List.pairwise_append.mp ascending
    have greater := (List.pairwise_cons.mp behind).1 later member
    have within := List.mem_append_right front (List.mem_cons_of_mem (path, value) member)
    exact absurd greater (not_lt.mpr (greatest later within fits))

/-! ## Flattening -/

variable {locale : String} {tree : Json} {texts : Table String}

theorem exists_flatten_iff :
    (∃ texts, flatten locale tree = .ok texts) ↔
      tree.isObject = true ∧
        ∀ path value, Ends tree path value → ∃ text, value = .string text := by
  have isText_iff : ∀ value : Json, value.isText = true ↔ ∃ text, value = .string text := by
    intro value
    cases value <;> simp [Json.isText]
  simp only [flatten_eq_ok_iff, exists_and_left, exists_eq, and_true, isPhrases_iff, stray?,
    List.find?_eq_none, Prod.forall, mem_ends_iff, Bool.not_eq_true', Bool.not_eq_false,
    isText_iff]

/-- The leaf that is reported is the stray value with the smallest way. -/
theorem flatten_eq_error_iff_smallest (ordered : Ordered tree) (object : tree.isObject = true)
    {error : TreeError} :
    flatten locale tree = .error error ↔
      ∃ path value kind, Ends tree path value ∧ value.isText = false ∧
        (∀ other stray, Ends tree other stray → stray.isText = false → path ≤ other) ∧
        value.IsOfKind kind ∧ error = .invalidLeaf (key path) kind := by
  rw [flatten_eq_error_iff object]
  simp only [stray?, find?_eq_some_iff_smallest (pairwise_ends ordered), Prod.exists,
    Prod.forall, mem_ends_iff, Bool.not_eq_true', Json.isOfKind_iff, exists_and_left,
    exists_eq_left', and_assoc]

/-- A root that is no object is reported with its kind. -/
theorem flatten_eq_invalidRoot (plain : tree.isObject = false) :
    ∃ kind, tree.IsOfKind kind ∧ flatten locale tree = .error (.invalidRoot locale kind) := by
  refine ⟨tree.kindName, Json.isOfKind_iff.mpr rfl, ?_⟩
  cases tree <;> first | rfl | cases plain

theorem mem_names_of_flatten_iff_ends (accepted : flatten locale tree = .ok texts)
    (name : String) :
    name ∈ texts.names ↔ ∃ path text, Ends tree path (.string text) ∧ key path = name := by
  simp only [mem_names_of_flatten accepted, Prod.exists, mem_leaves_iff]

/-- The text of a key is the one with the greatest way. -/
theorem get?_of_flatten_iff_greatest (ordered : Ordered tree)
    (accepted : flatten locale tree = .ok texts) (name text : String) :
    texts.get? name = some text ↔
      ∃ path, Ends tree path (.string text) ∧ key path = name ∧
        ∀ other otherText, Ends tree other (.string otherText) → key other = name →
          other ≤ path := by
  have last : ∀ path, (∃ front back, leaves tree = front ++ (path, text) :: back ∧
      ∀ later ∈ back, ¬ key later.1 = name) ↔ (path, text) ∈ leaves tree ∧
        ∀ other ∈ leaves tree, key other.1 = name → other.1 ≤ path := by
    intro path
    exact last_iff_greatest (pairwise_leaves ordered) fun way => key way = name
  simp only [Prod.forall, mem_leaves_iff] at last
  rw [get?_of_flatten accepted]
  constructor
  · rintro ⟨front, path, back, split, same, ends⟩
    obtain ⟨inside, greatest⟩ := (last path).mp ⟨front, back, split, fun a b => ends (a, b)⟩
    exact ⟨path, inside, same, greatest⟩
  · rintro ⟨path, inside, same, greatest⟩
    obtain ⟨front, back, split, ends⟩ := (last path).mpr ⟨inside, greatest⟩
    exact ⟨front, path, back, split, same, fun leaf => ends leaf.1 leaf.2⟩

/-- **Flattening.** A tree that is read from a text has the members of its objects in ascending
order. Such a tree is flattened iff it is an object and every value below it that is no object is a
text. A root of another kind is reported with its kind. Otherwise the first value that is neither
an object nor a text is reported with its key and its kind: the one with the smallest way. In the
table that flattening gives, the keys are those of the texts of the tree, and each has the text
that is visited last among those with the key: the one with the greatest way. -/
theorem flatten_visits_in_order (locale : String) (tree : Json) :
    (∀ text, Json.read text = .ok tree → Ordered tree) ∧
    (Ordered tree →
      ((∃ texts, flatten locale tree = .ok texts) ↔
        tree.isObject = true ∧ ∀ path value, Ends tree path value → ∃ text, value = .string text) ∧
      (tree.isObject = false → ∃ kind, tree.IsOfKind kind ∧
        flatten locale tree = .error (.invalidRoot locale kind)) ∧
      (tree.isObject = true → ∀ error, flatten locale tree = .error error ↔
        ∃ path value kind, Ends tree path value ∧ value.isText = false ∧
          (∀ other stray, Ends tree other stray → stray.isText = false → path ≤ other) ∧
          value.IsOfKind kind ∧ error = .invalidLeaf (key path) kind) ∧
      ∀ texts, flatten locale tree = .ok texts →
        (∀ name, name ∈ texts.names ↔
          ∃ path text, Ends tree path (.string text) ∧ key path = name) ∧
        ∀ name text, texts.get? name = some text ↔
          ∃ path, Ends tree path (.string text) ∧ key path = name ∧
            ∀ other otherText, Ends tree other (.string otherText) → key other = name →
              other ≤ path) := by
  refine ⟨fun text => ordered_of_read, fun ordered =>
    ⟨exists_flatten_iff, flatten_eq_invalidRoot, ?_, ?_⟩⟩
  · intro object error
    exact flatten_eq_error_iff_smallest ordered object
  · intro texts accepted
    exact ⟨mem_names_of_flatten_iff_ends accepted, get?_of_flatten_iff_greatest ordered accepted⟩

/-- The members are not in order in the text, two ways have one key, of two values that are no
texts the one in the smaller member is reported with its kind, and a document that is no tree at
all is reported with its own. -/
theorem flatten_visits_in_order_unsorted_text :
    let text := "\x7b\"b\":\"4\",\"a.c\":\"3\",\"a\":\x7b\"d\":\x7b\x7d,\"c\":\"1\"\x7d,\"\":\"0\"\x7d"
    let tree : Json := .object [("", .string "0"),
      ("a", .object [("c", .string "1"), ("d", .object [])]), ("a.c", .string "3"),
      ("b", .string "4")]
    let texts : Table String := .ofEntries [("", "0"), ("a.c", "3"), ("b", "4")]
    let spoilt : Json := .object [("a", .object [("z", .array [.null])]), ("a.b", .bool true)]
    Json.read text = .ok tree ∧ flatten "en" tree = .ok texts ∧ Ordered tree ∧
      (∃ path, Ends tree path (.string "3") ∧ key path = "a.c" ∧
        ∀ other otherText, Ends tree other (.string otherText) → key other = "a.c" →
          other ≤ path) ∧
      Ordered spoilt ∧ flatten "en" spoilt = .error (.invalidLeaf "a.z" "an array") ∧
      flatten "en" (.integer 3) = .error (.invalidRoot "en" "a number") ∧
      flatten "en" (.string "a") = .error (.invalidRoot "en" "a string") := by
  intro text tree texts spoilt
  have read : Json.read text = .ok tree := by cbv
  have accepted : flatten "en" tree = .ok texts := by rfl
  have ordered := (flatten_visits_in_order "en" tree).1 text read
  have spoiltOrdered : Ordered spoilt := by decide +kernel
  obtain ⟨-, -, -, stored⟩ := (flatten_visits_in_order "en" tree).2 ordered
  obtain ⟨-, -, reported, -⟩ := (flatten_visits_in_order "en" spoilt).2 spoiltOrdered
  have array : Ends spoilt ["a", "z"] (.array [.null]) :=
    .member List.mem_cons_self (.member List.mem_cons_self (.here rfl))
  have least : ∀ other stray, Ends spoilt other stray → stray.isText = false →
      ["a", "z"] ≤ other := by
    intro other stray reached _
    have member := mem_ends_iff.mpr reached
    have ways : ∀ found ∈ ends spoilt, ["a", "z"] ≤ found.1 := by decide +kernel
    exact ways _ member
  obtain ⟨-, root, -⟩ := (flatten_visits_in_order "en" (.integer 3)).2 (by decide +kernel)
  obtain ⟨-, otherRoot, -⟩ := (flatten_visits_in_order "en" (.string "a")).2 (by decide +kernel)
  refine ⟨read, accepted, ordered, ?_, spoiltOrdered, ?_, ?_, ?_⟩
  · exact ((stored texts accepted).2 "a.c" "3").mp (by decide +kernel)
  · exact (reported rfl _).mpr ⟨["a", "z"], _, _, array, rfl, least, .array, by decide +kernel⟩
  · obtain ⟨kind, named, failed⟩ := root rfl
    cases named
    exact failed
  · obtain ⟨kind, named, failed⟩ := otherRoot rfl
    cases named
    exact failed

end PhraseTree

end Phrasebook
