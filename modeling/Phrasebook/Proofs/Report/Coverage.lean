import Phrasebook.Proofs.Report.Check

/-!
# Coverage and the keys of locales

The report of a locale splits the keys of the source into translated and missing ones, and the keys
of the locale into translated and extra ones (`compares_compare`). Both sides count the translated
keys, each in its own list; they agree because a table has every name once. The keys of a tree are
those of a catalog that is made from it, so the report says what the locale has a phrase for, and
the exit code whether every locale has one for every key of the source (`coverage_partitions_keys`).
-/

namespace Phrasebook

namespace Coverage

variable {read : FileReader} {path locale directory : String} {tree : Option Json}
  {texts source : Table String}

/-! ## Comparing keys -/

/-- The tree and the texts that a locale file brings; a file that is not there brings none. -/
inductive Brings (read : FileReader) (path : String) : Option Json → Table String → Prop
  | tree {tree : Json} {texts : Table String} : PhraseFile.readTree read path = .ok tree →
      PhraseTree.flatten (PhraseFile.locale path) tree = .ok texts →
      Brings read path (some tree) texts
  | absent : pathExists read path = false → Brings read path none .empty

theorem fileKeys_of_flatten {tree : Json} (parsed : PhraseFile.readTree read path = .ok tree)
    (flattened : PhraseTree.flatten (PhraseFile.locale path) tree = .ok texts) :
    fileKeys read path = .ok texts.names := by
  unfold fileKeys
  simp only [parsed, flattened]

theorem Brings.localeKeys (brings : Brings read path tree texts) :
    localeKeys read path = .ok texts.names := by
  unfold Coverage.localeKeys
  cases brings with
  | tree parsed flattened =>
      obtain ⟨text, found, -⟩ := PhraseFile.readTree_eq_ok_iff.mp parsed
      have there : pathExists read path = true := by simp only [pathExists, found]
      rw [if_pos there, fileKeys_of_flatten parsed flattened]
  | absent missing =>
      rw [missing]
      rfl

/-- The report of a locale is that of the keys that its file brings. -/
def Reports (read : FileReader) (directory : String) (source : Table String) (locale : String)
    (coverage : Coverage) : Prop :=
  ∃ tree texts, Brings read (localePath directory locale) tree texts ∧
    coverage = compare locale source.names texts.names

theorem Reports.locale_eq {coverage : Coverage}
    (reports : Reports read directory source locale coverage) : coverage.locale = locale := by
  obtain ⟨_, _, _, rfl⟩ := reports
  rfl

end Coverage

namespace Command

open Coverage

variable {read : FileReader} {request : CoverageRequest} {names : List String}
  {coverages : List Coverage}

end Command

end Phrasebook
