/-!
# Tables by name

A table maps names to values and lists them in the byte order of the names, which is also the
code point order of `String`. `Entries` holds the operations on plain lists of named values,
in which a name that occurs twice has the value of its last occurrence; `Table` adds the proof
that the list is strictly ascending, so two tables with the same look-ups are equal.
-/

namespace Phrasebook

abbrev Entries (α : Type u) := List (String × α)

namespace Entries

variable {α : Type u}

/-- The value of the last entry with this name. -/
def find? (name : String) : Entries α → Option α
  | [] => none
  | (key, value) :: rest =>
    match find? name rest with
    | some later => some later
    | none => if key = name then some value else none

/-- Put a value under a name: an entry of that name is replaced, otherwise the new entry goes
before the first greater name. -/
def insert (name : String) (value : α) : Entries α → Entries α
  | [] => [(name, value)]
  | (key, old) :: rest =>
    if name < key then (name, value) :: (key, old) :: rest
    else if name = key then (name, value) :: rest
    else (key, old) :: insert name value rest

/-- The ascending list of the entries of `entries`, the last value of each name kept. -/
def ordered (entries : Entries α) : Entries α :=
  entries.foldl (fun table entry => insert entry.1 entry.2 table) []

/-- Every name is smaller than the names after it. -/
def Ascending (entries : Entries α) : Prop :=
  entries.Pairwise (fun earlier later => earlier.1 < later.1)

theorem insert_names {name : String} {value : α} {entries : Entries α} {entry : String × α}
    (member : entry ∈ insert name value entries) : entry.1 = name ∨ entry ∈ entries := by
  induction entries with
  | nil => simp_all [insert]
  | cons head rest ih =>
    obtain ⟨key, old⟩ := head
    simp only [insert] at member
    split at member
    · simp only [List.mem_cons] at member ⊢
      rcases member with rfl | rest
      · exact .inl rfl
      · exact .inr rest
    · split at member
      · simp only [List.mem_cons] at member ⊢
        rcases member with rfl | rest
        · exact .inl rfl
        · exact .inr (.inr rest)
      · simp only [List.mem_cons] at member ⊢
        rcases member with rfl | rest
        · exact .inr (.inl rfl)
        · exact (ih rest).imp id .inr

theorem Ascending.insert {entries : Entries α} (ascending : Ascending entries)
    (name : String) (value : α) : Ascending (entries.insert name value) := by
  induction entries with
  | nil => simp [Ascending, Entries.insert]
  | cons head rest ih =>
    obtain ⟨key, old⟩ := head
    have below : ∀ entry ∈ rest, key < entry.1 := fun _ member =>
      List.rel_of_pairwise_cons ascending member
    have tail : Ascending rest := List.Pairwise.of_cons ascending
    simp only [Entries.insert]
    split
    · refine List.Pairwise.cons (fun entry member => ?_) ascending
      rcases List.mem_cons.mp member with rfl | member
      · assumption
      · exact String.lt_trans (by assumption) (below _ member)
    · split
      · subst name
        exact List.Pairwise.cons (fun _ member => below _ member) tail
      · refine List.Pairwise.cons (fun entry member => ?_) (ih tail)
        rcases insert_names member with same | member
        · have notAbove : ¬ name < key := by assumption
          have different : ¬ name = key := by assumption
          rw [same]
          rcases String.le_total key name with le | le
          · exact Classical.byContradiction fun notLess =>
              different (String.le_antisymm (String.not_lt.mp notLess) le)
          · exact absurd (String.le_antisymm le (String.not_lt.mp notAbove)) different
        · exact below _ member

theorem Ascending.ordered (entries : Entries α) : Ascending entries.ordered := by
  suffices general : ∀ table : Entries α, Ascending table →
      Ascending (entries.foldl (fun table entry => table.insert entry.1 entry.2) table) from
    general [] List.Pairwise.nil
  induction entries with
  | nil => intro table ascending; exact ascending
  | cons entry rest ih => intro table ascending; exact ih _ (ascending.insert entry.1 entry.2)

/-- A name smaller than all names of a list is not in it. -/
theorem find?_eq_none_of_lt {name : String} {entries : Entries α}
    (below : ∀ entry ∈ entries, name < entry.1) : entries.find? name = none := by
  induction entries with
  | nil => rfl
  | cons head rest ih =>
    obtain ⟨key, value⟩ := head
    have notHere : key ≠ name := fun same =>
      String.lt_irrefl name (same ▸ below (key, value) List.mem_cons_self)
    simp [find?, ih fun entry member => below entry (List.mem_cons_of_mem _ member), notHere]

/-- The value just put under a name is found there. -/
theorem find?_insert_self {entries : Entries α} (ascending : Ascending entries)
    (name : String) (value : α) : (entries.insert name value).find? name = some value := by
  induction entries with
  | nil => simp [Entries.insert, find?]
  | cons head rest ih =>
    obtain ⟨key, old⟩ := head
    have below : ∀ entry ∈ rest, key < entry.1 := fun _ member =>
      List.rel_of_pairwise_cons ascending member
    have tail : Ascending rest := List.Pairwise.of_cons ascending
    simp only [Entries.insert]
    split
    · rename_i less
      have absent : find? name ((key, old) :: rest) = none :=
        find?_eq_none_of_lt fun entry member => by
          rcases List.mem_cons.mp member with rfl | member
          · exact less
          · exact String.lt_trans less (below entry member)
      rw [find?, absent]
      simp
    · split
      · subst name
        simp [find?, find?_eq_none_of_lt below]
      · simp [find?, ih tail]

/-- Putting a value under a name leaves the other names as they were. -/
theorem find?_insert_of_ne {name other : String} (different : other ≠ name) (value : α)
    (entries : Entries α) : (entries.insert name value).find? other = entries.find? other := by
  have notNew : ¬ name = other := fun same => different same.symm
  induction entries with
  | nil => simp [Entries.insert, find?, notNew]
  | cons head rest ih =>
    obtain ⟨key, old⟩ := head
    simp only [Entries.insert]
    split
    · rw [find?]
      cases find? other ((key, old) :: rest) <;> simp [notNew]
    · split
      · rename_i same
        simp [find?, notNew, ← same]
      · simp [find?, ih]

theorem Ascending.filter {entries : Entries α} (ascending : Ascending entries)
    (keep : String × α → Bool) : Ascending (entries.filter keep) :=
  List.Pairwise.filter keep ascending

theorem ascending_iff_names {entries : Entries α} :
    Ascending entries ↔ (entries.map (·.1)).Pairwise (· < ·) := by
  simp [Ascending, List.pairwise_map]

/-- A name greater than all names of a list goes to its end. -/
theorem insert_eq_append {name : String} {entries : Entries α}
    (above : ∀ entry ∈ entries, entry.1 < name) (value : α) :
    entries.insert name value = entries ++ [(name, value)] := by
  induction entries with
  | nil => rfl
  | cons head rest ih =>
    obtain ⟨key, old⟩ := head
    have less : key < name := above (key, old) List.mem_cons_self
    have notBelow : ¬ name < key := String.lt_asymm less
    have different : name ≠ key := fun same => String.lt_irrefl key (same ▸ less)
    rw [Entries.insert, if_neg notBelow, if_neg different,
      ih fun entry member => above entry (List.mem_cons_of_mem _ member), List.cons_append]

/-- An ascending list is in order. -/
theorem Ascending.ordered_eq {entries : Entries α} (ascending : Ascending entries) :
    entries.ordered = entries := by
  suffices general : ∀ front : Entries α, Ascending (front ++ entries) →
      entries.foldl (fun table entry => table.insert entry.1 entry.2) front = front ++ entries from
    general [] ascending
  clear ascending
  induction entries with
  | nil => intro front _; simp
  | cons entry rest ih =>
    intro front ascending
    have above : ∀ earlier ∈ front, earlier.1 < entry.1 := fun earlier member =>
      (List.pairwise_append.mp ascending).2.2 earlier member entry List.mem_cons_self
    rw [List.foldl_cons, insert_eq_append above, ih _ (by simpa using ascending)]
    simp

/-! ## Look-ups after the other operations -/

theorem find?_append (name : String) (front back : Entries α) :
    find? name (front ++ back) = (find? name back).or (find? name front) := by
  induction front with
  | nil => simp [find?]
  | cons head rest ih =>
    obtain ⟨key, value⟩ := head
    rw [List.cons_append, find?, ih, find?]
    cases find? name back <;> simp

theorem isSome_find?_iff {name : String} {entries : Entries α} :
    (entries.find? name).isSome ↔ name ∈ entries.map (·.1) := by
  induction entries with
  | nil => simp [find?]
  | cons head rest ih =>
    obtain ⟨key, value⟩ := head
    rw [find?, List.map_cons, List.mem_cons, ← ih]
    cases find? name rest with
    | some later => simp
    | none =>
      by_cases same : name = key
      · simp [same]
      · have notHere : ¬ key = name := fun here => same here.symm
        simp [same, notHere]

theorem find?_filter_self (name : String) (entries : Entries α) :
    find? name (entries.filter (·.1 != name)) = none := by
  rw [← Option.not_isSome_iff_eq_none, isSome_find?_iff]
  simp

theorem find?_filter_of_ne {name other : String} (different : other ≠ name)
    (entries : Entries α) : find? other (entries.filter (·.1 != name)) = find? other entries := by
  induction entries with
  | nil => rfl
  | cons head rest ih =>
    obtain ⟨key, value⟩ := head
    by_cases same : key = name
    · have notHere : key ≠ other := fun here => different (here.symm.trans same)
      rw [List.filter_cons_of_neg (by simpa using same), ih, find?, if_neg notHere]
      cases find? other rest <;> rfl
    · rw [List.filter_cons_of_pos (by simpa using same), find?, find?, ih]

theorem find?_map {β : Type v} (change : α → β) (name : String) (entries : Entries α) :
    find? name (entries.map fun entry => (entry.1, change entry.2)) =
      (find? name entries).map change := by
  induction entries with
  | nil => rfl
  | cons head rest ih =>
    obtain ⟨key, value⟩ := head
    rw [List.map_cons, find?, find?, ih]
    cases find? name rest with
    | some later => rfl
    | none => by_cases same : key = name <;> simp [same]

end Entries

/-- A finite map from names to values, listed in ascending order of the names. -/
structure Table (α : Type u) where
  entries : Entries α
  ascending : entries.Ascending

namespace Table

variable {α : Type u}

def empty : Table α := ⟨[], List.Pairwise.nil⟩

instance : EmptyCollection (Table α) := ⟨empty⟩

instance : Inhabited (Table α) := ⟨empty⟩

/-- The table of a list of entries; the last value of each name is kept. -/
def ofEntries (entries : Entries α) : Table α := ⟨entries.ordered, .ordered entries⟩

def get? (table : Table α) (name : String) : Option α := table.entries.find? name

def contains (table : Table α) (name : String) : Bool := (table.get? name).isSome

def insert (table : Table α) (name : String) (value : α) : Table α :=
  ⟨table.entries.insert name value, table.ascending.insert name value⟩

theorem get?_insert_self (table : Table α) (name : String) (value : α) :
    (table.insert name value).get? name = some value :=
  Entries.find?_insert_self table.ascending name value

theorem get?_insert_of_ne (table : Table α) {name other : String} (different : other ≠ name)
    (value : α) : (table.insert name value).get? other = table.get? other :=
  Entries.find?_insert_of_ne different value table.entries

theorem get?_insert (table : Table α) (name other : String) (value : α) :
    (table.insert name value).get? other =
      if other = name then some value else table.get? other := by
  by_cases same : other = name
  · rw [if_pos same, same, get?_insert_self]
  · rw [if_neg same, get?_insert_of_ne table same]

theorem get?_empty (name : String) : (empty : Table α).get? name = none := rfl

def erase (table : Table α) (name : String) : Table α :=
  ⟨table.entries.filter (·.1 != name), table.ascending.filter _⟩

theorem get?_erase (table : Table α) (name other : String) :
    (table.erase name).get? other = if other = name then none else table.get? other := by
  by_cases same : other = name
  · rw [if_pos same, same]
    exact Entries.find?_filter_self name table.entries
  · rw [if_neg same]
    exact Entries.find?_filter_of_ne same table.entries

/-- The table with the entries of `upper` put on top of it. -/
def overlay (table upper : Table α) : Table α :=
  upper.entries.foldl (fun result entry => result.insert entry.1 entry.2) table

/-- Entries that are put into a table one after the other hide what was there. -/
theorem get?_foldl_insert (entries : Entries α) (table : Table α) (name : String) :
    (entries.foldl (fun result entry => result.insert entry.1 entry.2) table).get? name =
      (entries.find? name).or (table.get? name) := by
  induction entries generalizing table with
  | nil => simp [Entries.find?]
  | cons head rest ih =>
    obtain ⟨key, value⟩ := head
    rw [List.foldl_cons, ih, get?_insert, Entries.find?]
    cases Entries.find? name rest with
    | some later => rfl
    | none =>
      by_cases same : name = key
      · simp [same]
      · have notHere : ¬ key = name := fun here => same here.symm
        simp [same, notHere]

theorem get?_overlay (table upper : Table α) (name : String) :
    (table.overlay upper).get? name = (upper.get? name).or (table.get? name) :=
  get?_foldl_insert upper.entries table name

theorem entries_foldl_insert (entries : Entries α) (table : Table α) :
    (entries.foldl (fun result entry => result.insert entry.1 entry.2) table).entries =
      entries.foldl (fun result entry => result.insert entry.1 entry.2) table.entries := by
  induction entries generalizing table with
  | nil => rfl
  | cons head rest ih => exact ih _

theorem get?_ofEntries (entries : Entries α) (name : String) :
    (ofEntries entries).get? name = entries.find? name := by
  have filled := get?_foldl_insert entries empty name
  rw [get?, entries_foldl_insert] at filled
  rw [get?_empty, Option.or_none] at filled
  exact filled

def names (table : Table α) : List String := table.entries.map (·.1)

theorem mem_names_iff {table : Table α} {name : String} :
    name ∈ table.names ↔ (table.get? name).isSome :=
  Entries.isSome_find?_iff.symm

theorem mem_names_insert {table : Table α} {name other : String} {value : α} :
    other ∈ (table.insert name value).names ↔ other ∈ table.names ∨ name = other := by
  rw [mem_names_iff, mem_names_iff, get?_insert]
  by_cases same : other = name
  · simp [same]
  · have notNew : ¬ name = other := fun new => same new.symm
    simp [same, notNew]

def size (table : Table α) : Nat := table.entries.length

def isEmpty (table : Table α) : Bool := table.entries.isEmpty

def map {β : Type v} (change : α → β) (table : Table α) : Table β :=
  ⟨table.entries.map fun entry => (entry.1, change entry.2),
    Entries.ascending_iff_names.mpr (by
      simpa [Function.comp_def] using Entries.ascending_iff_names.mp table.ascending)⟩

theorem names_map {β : Type v} (change : α → β) (table : Table α) :
    (table.map change).names = table.names := by
  simp [names, map, Function.comp_def]

theorem get?_map {β : Type v} (change : α → β) (table : Table α) (name : String) :
    (table.map change).get? name = (table.get? name).map change :=
  Entries.find?_map change name table.entries

def modify (table : Table α) (name : String) (change : α → α) : Table α :=
  match table.get? name with
  | some value => table.insert name (change value)
  | none => table

theorem modify_eq_insert {table : Table α} {name : String} {value : α}
    (found : table.get? name = some value) (change : α → α) :
    table.modify name change = table.insert name (change value) := by
  simp only [modify, found]

theorem modify_eq_self {table : Table α} {name : String} (absent : table.get? name = none)
    (change : α → α) : table.modify name change = table := by
  simp only [modify, absent]

theorem get?_modify (table : Table α) (name other : String) (change : α → α) :
    (table.modify name change).get? other =
      if other = name then (table.get? other).map change else table.get? other := by
  cases found : table.get? name with
  | some value =>
      rw [modify_eq_insert found, get?_insert]
      by_cases same : other = name <;> simp [same, found]
  | none =>
      rw [modify_eq_self found]
      by_cases same : other = name <;> simp [same, found]

theorem mem_names_modify {table : Table α} {name other : String} {change : α → α} :
    other ∈ (table.modify name change).names ↔ other ∈ table.names := by
  rw [mem_names_iff, mem_names_iff, get?_modify]
  split <;> simp

end Table

end Phrasebook
