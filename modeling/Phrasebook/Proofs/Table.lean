import Phrasebook.Table
import Mathlib

/-!
# Entries and look-ups

What a look-up in a list of entries says about the list: the last entry of a name counts
(`Entries.find?_eq_some_iff`), so in a table, where names are different, looking up is the same as
being an entry (`Table.mem_entries_iff`). A table that is made from a list has one entry for each
name of it (`Table.size_ofEntries`), and tables with the same look-ups are the same
(`Table.ext_get?`).
-/

namespace Phrasebook

namespace Entries

variable {α : Type u} {name : String} {value : α} {entries : Entries α}

theorem find?_eq_none_iff : find? name entries = none ↔ ∀ entry ∈ entries, entry.1 ≠ name := by
  rw [← Option.not_isSome_iff_eq_none, isSome_find?_iff]
  simp only [List.mem_map, not_exists, not_and, ne_eq]

/-- A name has the value of its last entry. -/
theorem find?_eq_some_iff :
    find? name entries = some value ↔
      ∃ front back, entries = front ++ (name, value) :: back ∧ ∀ later ∈ back, later.1 ≠ name := by
  constructor
  · intro found
    induction entries with
    | nil => cases found
    | cons head rest ih =>
        obtain ⟨key, first⟩ := head
        rw [find?] at found
        split at found
        · rename_i later there
          cases found
          obtain ⟨front, back, rfl, last⟩ := ih there
          exact ⟨(key, first) :: front, back, rfl, last⟩
        · rename_i absent
          split at found
          · rename_i same
            cases found
            exact ⟨[], rest, by rw [same]; rfl, find?_eq_none_iff.mp absent⟩
          · cases found
  · rintro ⟨front, back, rfl, last⟩
    simp [find?_append, find?, find?_eq_none_iff.mpr last]

theorem mem_of_find? (found : find? name entries = some value) : (name, value) ∈ entries := by
  obtain ⟨front, back, rfl, -⟩ := find?_eq_some_iff.mp found
  exact List.mem_append_right _ List.mem_cons_self

/-- Names that are changed without two becoming one are found as before. -/
theorem find?_map_names {rename : String → String} (injective : Function.Injective rename)
    (name : String) (entries : Entries α) :
    find? (rename name) (entries.map fun entry => (rename entry.1, entry.2)) =
      find? name entries := by
  induction entries with
  | nil => rfl
  | cons head rest ih =>
      obtain ⟨key, first⟩ := head
      rw [List.map_cons, find?, find?, ih]
      by_cases same : key = name
      · simp [same]
      · have different : ¬ rename key = rename name := fun equal => same (injective equal)
        simp [same, different]

end Entries

namespace Table

variable {α : Type u}

theorem nodup_names (table : Table α) : table.names.Nodup :=
  (Entries.ascending_iff_names.mp table.ascending).imp String.ne_of_lt

theorem mem_entries_iff {table : Table α} {name : String} {value : α} :
    (name, value) ∈ table.entries ↔ table.get? name = some value := by
  constructor
  · intro member
    obtain ⟨front, back, split⟩ := List.append_of_mem member
    refine Entries.find?_eq_some_iff.mpr ⟨front, back, split, ?_⟩
    have different := table.nodup_names
    rw [names, split, List.map_append, List.map_cons] at different
    intro later behind same
    have once := (List.nodup_cons.mp (List.nodup_append.mp different).2.1).1
    exact once (List.mem_map.mpr ⟨later, behind, same⟩)
  · exact Entries.mem_of_find?

/-- A table has an entry for each of the names that it is made from. -/
theorem size_ofEntries (entries : Entries α) :
    (ofEntries entries).size = (entries.map (·.1)).dedup.length := by
  have same : (ofEntries entries).names.Perm (entries.map (·.1)).dedup := by
    refine (List.perm_ext_iff_of_nodup (nodup_names _) (List.nodup_dedup _)).mpr ?_
    intro name
    rw [mem_names_iff, get?_ofEntries, List.mem_dedup, Entries.isSome_find?_iff]
  rw [← same.length_eq, names, List.length_map, size]

theorem size_eq_length_names (table : Table α) : table.size = table.names.length := by
  rw [names, List.length_map, size]

/-- Tables with the same look-ups are the same table. -/
theorem ext_get? {table other : Table α} (same : ∀ name, table.get? name = other.get? name) :
    table = other := by
  have distinct : ∀ table : Table α, table.entries.Nodup :=
    fun table => List.Nodup.of_map _ table.nodup_names
  have permuted : table.entries.Perm other.entries := by
    refine (List.perm_ext_iff_of_nodup (distinct table) (distinct other)).mpr ?_
    rintro ⟨name, value⟩
    rw [mem_entries_iff, mem_entries_iff, same]
  have entries_eq : table.entries = other.entries := permuted.eq_of_pairwise
    (fun _ _ _ _ less greater => absurd greater (String.lt_asymm less))
    table.ascending other.ascending
  cases table
  cases other
  rwa [Table.mk.injEq]

end Table

/-- The entries in order are among the entries. -/
theorem Entries.mem_of_mem_ordered {α : Type u} {entries : Entries α} {entry : String × α}
    (member : entry ∈ entries.ordered) : entry ∈ entries := by
  have found : (Table.ofEntries entries).get? entry.1 = some entry.2 :=
    Table.mem_entries_iff.mp member
  rw [Table.get?_ofEntries] at found
  exact Entries.mem_of_find? found

theorem Entries.find?_ordered {α : Type u} (name : String) (entries : Entries α) :
    entries.ordered.find? name = entries.find? name :=
  Table.get?_ofEntries entries name

/-- The list in order depends on the look-ups alone. -/
theorem Entries.ordered_congr {α : Type u} {entries others : Entries α}
    (same : ∀ name, entries.find? name = others.find? name) :
    entries.ordered = others.ordered := by
  have tables : Table.ofEntries entries = Table.ofEntries others := by
    refine Table.ext_get? fun name => ?_
    rw [Table.get?_ofEntries, Table.get?_ofEntries, same]
  exact congrArg Table.entries tables

end Phrasebook
