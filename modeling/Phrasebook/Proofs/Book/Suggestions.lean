import Phrasebook.Book.Operation
import Phrasebook.Proofs.Text.ByteOrder
import Phrasebook.Proofs.Text.Distance

/-!
# Suggestions

A locale that is not defined is reported with names of defined ones that are close to it. Candidates
are ranked by the edits that lead to them and then by their bytes (`Ahead`), which is a linear order
on names (`rank_injective`). So the close names of a list have one row in this order, whatever order
the list has, and the first three of it are suggested (`AreClosest`). A book asks for names close to
one that it does not have, among those that it has (`suggests_closest_locales`).
-/

namespace Phrasebook

namespace Text

/-! ## The rank of a candidate -/

/-- A candidate is at most one edit away from a name of up to three characters, or at most two from
a longer one. -/
def IsClose (name candidate : String) : Prop :=
  distance name.toList candidate.toList ≤ if name.length ≤ 3 then 1 else 2

instance (name candidate : String) : Decidable (IsClose name candidate) :=
  inferInstanceAs (Decidable (_ ≤ _))

/-- A candidate is ahead of another if fewer edits lead to it, or as many, and its bytes are
smaller. -/
def Ahead (name first second : String) : Prop :=
  distance name.toList first.toList < distance name.toList second.toList ∨
    distance name.toList first.toList = distance name.toList second.toList ∧
      bytes first < bytes second

/-- What candidates are ranked by, in lexicographic order. -/
def rank (name candidate : String) : ℕ ×ₗ String :=
  toLex (distance name.toList candidate.toList, candidate)

variable {name first second : String}

theorem rank_injective (name : String) : Function.Injective (rank name) := by
  intro first second same
  exact congrArg (fun rank => (ofLex rank).2) same

theorem ahead_iff : Ahead name first second ↔ rank name first < rank name second := by
  rw [Ahead, bytes_lt_iff, Prod.Lex.lt_iff]
  rfl

theorem not_ahead_iff : ¬ Ahead name second first ↔ rank name first ≤ rank name second := by
  rw [ahead_iff, not_lt]

theorem ranksBefore_iff {first second : ℕ × String} :
    ranksBefore first second = true ↔ toLex first ≤ toLex second := by
  rw [Prod.Lex.le_iff]
  simp [ranksBefore]

/-! ## The closest names -/

/-- The close names of a list in the order of their ranks. -/
def closeRow (name : String) (available : List String) : List String :=
  (available.filter (IsClose name ·)).mergeSort fun first second =>
    decide (rank name first ≤ rank name second)

theorem closest_eq_take (name : String) (available : List String) :
    closest name available = (closeRow name available).take 3 := by
  let score : String → ℕ × String := fun candidate => ofLex (rank name candidate)
  have filtered : (available.map score).filter (fun candidate => candidate.1 ≤ closeLimit name) =
      (available.filter (IsClose name ·)).map score := List.filter_map
  have sorted : ((available.filter (IsClose name ·)).map score).mergeSort ranksBefore =
      (closeRow name available).map score := by
    refine (List.map_mergeSort fun first _ second _ => ?_).symm
    rw [← Bool.coe_iff_coe, decide_eq_true_eq, ranksBefore_iff]
    exact Iff.rfl
  calc
    closest name available =
        ((((available.map score).filter (fun candidate => candidate.1 ≤ closeLimit name)).mergeSort
          ranksBefore).take 3).map (·.2) := rfl
    _ = (((closeRow name available).map score).take 3).map (·.2) := by rw [filtered, sorted]
    _ = ((closeRow name available).take 3).map id := by rw [← List.map_take, List.map_map]; rfl
    _ = (closeRow name available).take 3 := List.map_id _

theorem perm_closeRow (name : String) (available : List String) :
    (closeRow name available).Perm (available.filter (IsClose name ·)) :=
  List.mergeSort_perm _ _

theorem pairwise_closeRow (name : String) (available : List String) :
    (closeRow name available).Pairwise fun earlier later => ¬ Ahead name later earlier := by
  have sorted : (closeRow name available).Pairwise fun earlier later =>
      decide (rank name earlier ≤ rank name later) = true := by
    apply List.pairwise_mergeSort
    · intro first second third here there
      rw [decide_eq_true_eq] at here there ⊢
      exact here.trans there
    · intro first second
      rw [Bool.or_eq_true, decide_eq_true_eq, decide_eq_true_eq]
      exact le_total (rank name first) (rank name second)
  apply sorted.imp
  intro earlier later ordered
  rw [not_ahead_iff]
  exact of_decide_eq_true ordered

/-- The row does not depend on the order of the list. -/
theorem closeRow_congr {available reordered : List String} (same : reordered.Perm available) :
    closeRow name reordered = closeRow name available := by
  have permuted : (closeRow name reordered).Perm (closeRow name available) :=
    (perm_closeRow name reordered).trans
      ((same.filter _).trans (perm_closeRow name available).symm)
  refine permuted.eq_of_pairwise (fun first second _ _ here there => ?_)
    (pairwise_closeRow name reordered) (pairwise_closeRow name available)
  rw [not_ahead_iff] at here there
  exact rank_injective name (here.antisymm there)

/-- Some names of a list are the closest ones to a name: up to three close names in the order of
their ranks, and those that are left over are not ahead of any of them. -/
structure AreClosest (name : String) (available chosen : List String) : Prop where
  length_eq : chosen.length = min 3 (available.countP (IsClose name ·))
  ascending : chosen.Pairwise fun earlier later => ¬ Ahead name later earlier
  best : ∃ others, (chosen ++ others).Perm (available.filter (IsClose name ·)) ∧
    ∀ candidate ∈ chosen, ∀ other ∈ others, ¬ Ahead name other candidate
  count_le : ∀ candidate, chosen.count candidate ≤ available.count candidate

theorem areClosest_closest (name : String) (available : List String) :
    AreClosest name available (closest name available) := by
  have row := perm_closeRow name available
  have split := List.take_append_drop 3 (closeRow name available)
  have ordered := pairwise_closeRow name available
  rw [← split, List.pairwise_append] at ordered
  rw [closest_eq_take]
  refine ⟨?_, ordered.1, ⟨_, split.symm ▸ row, ordered.2.2⟩, ?_⟩
  · rw [List.length_take, row.length_eq, List.countP_eq_length_filter]
  · intro candidate
    calc
      ((closeRow name available).take 3).count candidate
          ≤ (closeRow name available).count candidate :=
            (List.take_sublist 3 _).count_le candidate
      _ = (available.filter (IsClose name ·)).count candidate := row.count_eq candidate
      _ ≤ available.count candidate := List.filter_sublist.count_le candidate

end Text

namespace Book

open Text

/-- An error on a locale that a book does not have suggests the closest ones that it has. -/
structure Suggests (book : Book) (locale : String) (error : LocaleNotFound) : Prop where
  locale_eq : error.locale = locale
  closest : AreClosest locale book.locales error.suggestions
  defined : ∀ suggestion ∈ error.suggestions, suggestion ∈ book.locales
  other : locale ∉ error.suggestions

theorem suggests_notFound {book : Book} {locale : String} (absent : locale ∉ book.locales) :
    book.Suggests locale (book.notFound locale) := by
  have closest := areClosest_closest locale book.locales
  have defined : ∀ suggestion ∈ Text.closest locale book.locales, suggestion ∈ book.locales := by
    intro suggestion member
    obtain ⟨others, row, -⟩ := closest.best
    exact List.mem_of_mem_filter (row.mem_iff.mp (List.mem_append_left others member))
  exact ⟨rfl, closest, defined, fun member => absent (defined locale member)⟩

/-- **Suggestions.** The distance of two texts is the least number of edits that lead from one to
the other. Of the close names of a list the three with the lowest distance are suggested, of equally
close ones those with the smallest bytes, and the order of the list makes no difference. A book
answers the activation of a locale that it does not have, and a translation in it, with suggestions
among the locales that it has. -/
theorem suggests_closest_locales :
    (∀ text other : List Char, IsLeast {n | Edits n text other} (distance text other)) ∧
    (∀ name available, AreClosest name available (closest name available) ∧
      ∀ reordered : List String, reordered.Perm available →
        closest name reordered = closest name available) ∧
    ∀ (book : Book) (locale : String),
      (∀ error after, book.activate locale = (.error error, after) →
        book.Suggests locale error) ∧
      ∀ key params error, book.translateIn locale key params = .error error →
        book.Suggests locale error := by
  refine ⟨isLeast_distance, fun name available => ⟨areClosest_closest name available, ?_⟩, ?_⟩
  · intro reordered same
    rw [closest_eq_take, closest_eq_take, closeRow_congr same]
  · intro book locale
    constructor
    · intro error after failed
      unfold activate at failed
      split_ifs at failed with defined
      · cases failed
      · cases failed
        exact suggests_notFound fun member => defined (Table.mem_names_iff.mp member)
    · intro key params error failed
      unfold translateIn at failed
      cases found : book.catalogs.get? locale with
      | some catalog => simp [found] at failed
      | none =>
          simp only [found, Except.error.injEq] at failed
          rw [← failed]
          refine suggests_notFound fun member => ?_
          have defined := Table.mem_names_iff.mp member
          rw [found] at defined
          cases defined

/-- Of four close locales, three of them two edits away, the one with the greatest bytes is left
out. -/
theorem suggests_closest_locales_cut :
    let file : FileReader := fun _ => .ok "\x7b\x7d"
    let book := new.run (["en-US", "en-GB", "de", "en-IN", "en"].map fun locale =>
      (.load locale "phrases.json", file))
    book.activate "en-U" = (.error ⟨"en-U", ["en-US", "en", "en-GB"]⟩, book) ∧
      book.Suggests "en-U" ⟨"en-U", ["en-US", "en", "en-GB"]⟩ := by
  intro file book
  have locales : book.locales = ["de", "en", "en-GB", "en-IN", "en-US"] := by decide +kernel
  have suggestions : Text.closest "en-U" book.locales = ["en-US", "en", "en-GB"] := by
    rw [locales]
    cbv
  have failed : book.activate "en-U" = (.error (book.notFound "en-U"), book) :=
    if_neg (by decide +kernel)
  rw [notFound, suggestions] at failed
  exact ⟨failed, (suggests_closest_locales.2.2 book "en-U").1 _ _ failed⟩

end Book

end Phrasebook
