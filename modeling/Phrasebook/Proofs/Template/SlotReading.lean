import Phrasebook.Proofs.Template.Grammar
import Mathlib

/-!
# Reading a slot

`readSlot` against the grammar of slots, one exact law for each of its outcomes:

* it gives a slot and a rest iff that slot is written in front of that rest
  (`readSlot_eq_some_iff`);
* it gives nothing iff the first character of the text stands for itself
  (`readSlot_eq_none_iff`);
* it fails iff the slot has a fault in its settings, with that fault (`readSlot_eq_error_iff`).

Each reader below `readSlot` takes the longest piece it can, so its law says what the rest does
not go on with; the grammar leaves only one way to split a text because of that.
-/

namespace Phrasebook.Template

/-! ## Blanks and marks -/

theorem skipBlanks_append {blanks : List Char} (all : Blanks blanks) (rest : List Char) :
    skipBlanks (blanks ++ rest) = skipBlanks rest :=
  List.dropWhile_append_of_pos all

theorem skipBlanks_of_stops {rest : List Char} (stops : Stops isBlank rest) :
    skipBlanks rest = rest :=
  stops.dropWhile

theorem blanks_takeWhile (text : List Char) : Blanks (text.takeWhile isBlank) :=
  fun _ member => List.mem_takeWhile_imp member

theorem takeWhile_append_skipBlanks (text : List Char) :
    text.takeWhile isBlank ++ skipBlanks text = text :=
  List.takeWhile_append_dropWhile

theorem skipBlanks_closing {closing : List Char} (written : Closing closing)
    (rest : List Char) : skipBlanks (closing ++ rest) = '}' :: '}' :: rest := by
  cases written with
  | intro blanks =>
      rw [List.append_assoc, skipBlanks_append blanks]
      exact skipBlanks_of_stops (stops_cons.mpr (by decide))

/-- Only the blanks in front of a comma are skipped with it. -/
theorem skipBlanks_comma {comma : List Char} (written : Comma comma) (rest : List Char) :
    ∃ after, Blanks after ∧ skipBlanks (comma ++ rest) = ',' :: (after ++ rest) := by
  cases written with
  | @intro before after all allAfter =>
      refine ⟨after, allAfter, ?_⟩
      rw [List.append_assoc, skipBlanks_append all]
      exact skipBlanks_of_stops (stops_cons.mpr (by decide))

theorem readClose?_eq_some_iff {text rest : List Char} :
    readClose? text = some rest ↔ ∃ closing, Closing closing ∧ text = closing ++ rest := by
  constructor
  · intro success
    unfold readClose? at success
    split at success
    · rename_i behind found
      cases success
      refine ⟨_, .intro (blanks_takeWhile text), ?_⟩
      conv_lhs => rw [← takeWhile_append_skipBlanks text, found]
      simp
    · cases success
  · rintro ⟨closing, written, rfl⟩
    unfold readClose?
    rw [skipBlanks_closing written]
    rfl

theorem Closing.read {closing : List Char} (written : Closing closing) (rest : List Char) :
    readClose? (closing ++ rest) = some rest :=
  readClose?_eq_some_iff.mpr ⟨closing, written, rfl⟩

theorem readClose?_eq_none_iff {text : List Char} :
    readClose? text = none ↔ ¬ BeginsClosing text := by
  constructor
  · rintro failure ⟨closing, rest, written, split⟩
    rw [readClose?_eq_some_iff.mpr ⟨closing, written, split⟩] at failure
    cases failure
  · intro absent
    cases success : readClose? text with
    | none => rfl
    | some rest =>
        obtain ⟨closing, written, split⟩ := readClose?_eq_some_iff.mp success
        exact absurd ⟨closing, rest, written, split⟩ absent

theorem readComma?_eq_some_iff {text rest : List Char} :
    readComma? text = some rest ↔
      ∃ comma, Comma comma ∧ text = comma ++ rest ∧ Stops isBlank rest := by
  constructor
  · intro success
    unfold readComma? at success
    split at success
    · rename_i behind found
      cases success
      refine ⟨_, .intro (blanks_takeWhile text) (blanks_takeWhile behind), ?_,
        stops_dropWhile isBlank behind⟩
      conv_lhs => rw [← takeWhile_append_skipBlanks text, found,
        ← takeWhile_append_skipBlanks behind]
      simp
    · cases success
  · rintro ⟨comma, written, rfl, stops⟩
    obtain ⟨after, all, found⟩ := skipBlanks_comma written rest
    unfold readComma?
    rw [found]
    simp only [skipBlanks_append all, skipBlanks_of_stops stops]

/-- No comma is read where a slot ends. -/
theorem readComma?_closing {closing : List Char} (written : Closing closing)
    (rest : List Char) : readComma? (closing ++ rest) = none := by
  unfold readComma?
  rw [skipBlanks_closing written]
  rfl

/-! ## Names -/

theorem takeWhile_append_of_stops {within : Char → Bool} {name rest : List Char}
    (all : ∀ c ∈ name, within c = true) (stops : Stops within rest) :
    (name ++ rest).takeWhile within = name := by
  rw [List.takeWhile_append_of_pos all, stops.takeWhile, List.append_nil]

theorem dropWhile_append_of_stops {within : Char → Bool} {name rest : List Char}
    (all : ∀ c ∈ name, within c = true) (stops : Stops within rest) :
    (name ++ rest).dropWhile within = rest := by
  rw [List.dropWhile_append_of_pos all, stops.dropWhile]

theorem readParameter?_eq_some_iff {text rest : List Char} {parameter : String} :
    readParameter? text = some (parameter, rest) ↔
      ∃ name, ParameterName name ∧ parameter = String.ofList name ∧ text = name ++ rest ∧
        Stops isLower rest := by
  constructor
  · intro success
    unfold readParameter? at success
    split at success
    · cases success
    · rename_i name nonempty
      cases success
      have all : ∀ c ∈ text.takeWhile isLower, isLower c = true :=
        fun _ member => List.mem_takeWhile_imp member
      refine ⟨text.takeWhile isLower, ?_, rfl, List.takeWhile_append_dropWhile.symm,
        stops_dropWhile isLower text⟩
      cases taken : text.takeWhile isLower with
      | nil => exact absurd taken nonempty
      | cons first others =>
          rw [taken] at all
          exact .intro (all first List.mem_cons_self)
            (fun c member => all c (List.mem_cons_of_mem _ member))
  · rintro ⟨name, letters, rfl, rfl, stops⟩
    cases letters with
    | @intro first others lower all =>
        have every : ∀ c ∈ first :: others, isLower c = true := by
          intro c member
          rcases List.mem_cons.mp member with rfl | member
          · exact lower
          · exact all c member
        unfold readParameter?
        rw [takeWhile_append_of_stops every stops, dropWhile_append_of_stops every stops]

theorem readFormatter?_eq_some_iff {text rest : List Char} {formatter : String} :
    readFormatter? text = some (formatter, rest) ↔
      ∃ name, FormatterName name ∧ formatter = String.ofList name ∧ text = name ++ rest ∧
        Stops isLetter rest := by
  constructor
  · intro success
    cases text with
    | nil => cases success
    | cons first text =>
        simp only [readFormatter?] at success
        split_ifs at success with lower
        cases success
        exact ⟨first :: text.takeWhile isLetter,
          .intro lower (fun _ member => List.mem_takeWhile_imp member), rfl,
          by rw [List.cons_append, List.takeWhile_append_dropWhile],
          stops_dropWhile isLetter text⟩
  · rintro ⟨name, letters, rfl, rfl, stops⟩
    cases letters with
    | intro lower all =>
        simp only [List.cons_append, readFormatter?, lower, if_true,
          takeWhile_append_of_stops all stops, dropWhile_append_of_stops all stops]

/-! ## The head of a slot -/

theorem readOpen?_eq_some_iff {text rest : List Char} :
    readOpen? text = some rest ↔ text = openMark ++ rest := by
  constructor
  · intro success
    unfold readOpen? at success
    split at success
    · cases success
      rfl
    · cases success
  · rintro rfl
    rfl

/-- What is read of the opening of a slot, up to the end of the parameter's letters. -/
theorem readOpening_eq_some_iff {text rest : List Char} {parameter : String} :
    ((readOpen? text).bind fun opened => readParameter? (skipBlanks opened)) =
        some (parameter, rest) ↔
      ∃ opening, OpeningText parameter opening ∧ text = opening ++ rest ∧
        Stops isLower rest := by
  constructor
  · intro success
    obtain ⟨opened, marked, success⟩ := Option.bind_eq_some_iff.mp success
    obtain ⟨name, letters, rfl, split, stops⟩ := readParameter?_eq_some_iff.mp success
    refine ⟨_, .intro (blanks_takeWhile opened) letters, ?_, stops⟩
    rw [readOpen?_eq_some_iff.mp marked, List.append_assoc, List.append_assoc, ← split,
      takeWhile_append_skipBlanks]
  · rintro ⟨opening, written, rfl, stops⟩
    cases written with
    | @intro blanks name all letters =>
        refine Option.bind_eq_some_iff.mpr
          ⟨blanks ++ (name ++ rest), readOpen?_eq_some_iff.mpr (by simp), ?_⟩
        refine readParameter?_eq_some_iff.mpr ⟨name, letters, rfl, ?_, stops⟩
        rw [skipBlanks_append all, skipBlanks_of_stops]
        -- A name begins with a letter, so no blank is left in front of it.
        cases letters with
        | intro lower others => exact stops_cons.mpr (isBlank_of_isLower lower)

/-- A formatter behind its comma, up to the end of the formatter's letters. -/
theorem readFormatterText_eq_some_iff {text rest : List Char} {formatter : String} :
    (readComma? text).bind readFormatter? = some (formatter, rest) ↔
      ∃ clause, FormatterText formatter clause ∧ text = clause ++ rest ∧
        Stops isLetter rest := by
  constructor
  · intro success
    obtain ⟨behind, comma, success⟩ := Option.bind_eq_some_iff.mp success
    obtain ⟨name, letters, rfl, rfl, stops⟩ := readFormatter?_eq_some_iff.mp success
    obtain ⟨comma, written, rfl, -⟩ := readComma?_eq_some_iff.mp comma
    exact ⟨_, .intro written letters, (List.append_assoc _ _ _).symm, stops⟩
  · rintro ⟨clause, ⟨written, letters⟩, rfl, stops⟩
    refine Option.bind_eq_some_iff.mpr ⟨_, readComma?_eq_some_iff.mpr
      ⟨_, written, List.append_assoc _ _ _, ?_⟩,
      readFormatter?_eq_some_iff.mpr ⟨_, letters, rfl, rfl, stops⟩⟩
    cases letters with
    | intro lower others => exact stops_cons.mpr (isBlank_of_isLower lower)

/-- The head in two steps: the opening, and behind it a formatter if one is named. -/
theorem readHead?_eq (text : List Char) :
    readHead? text =
      ((readOpen? text).bind fun opened => readParameter? (skipBlanks opened)).bind
        fun (parameter, behind) =>
          match (readComma? behind).bind readFormatter? with
          | some (formatter, rest) => some (parameter, some formatter, rest)
          | none => some (parameter, none, behind) := by
  unfold readHead?
  cases readOpen? text <;> rfl

theorem readHead?_eq_bare_iff {text rest : List Char} {parameter : String} :
    readHead? text = some (parameter, none, rest) ↔
      ∃ opening, OpeningText parameter opening ∧ text = opening ++ rest ∧ Stops isLower rest ∧
        (readComma? rest).bind readFormatter? = none := by
  rw [readHead?_eq, Option.bind_eq_some_iff]
  constructor
  · rintro ⟨⟨name, behind⟩, opened, success⟩
    cases formatter : (readComma? behind).bind readFormatter? with
    | some found => simp [formatter] at success
    | none =>
        simp only [formatter, Option.some.injEq, Prod.mk.injEq, true_and] at success
        obtain ⟨rfl, rfl⟩ := success
        obtain ⟨opening, written, split, stops⟩ := readOpening_eq_some_iff.mp opened
        exact ⟨opening, written, split, stops, formatter⟩
  · rintro ⟨opening, written, split, stops, absent⟩
    refine ⟨(parameter, rest), readOpening_eq_some_iff.mpr ⟨opening, written, split, stops⟩, ?_⟩
    simp only [absent]

theorem readHead?_eq_formatter_iff {text rest : List Char} {parameter formatter : String} :
    readHead? text = some (parameter, some formatter, rest) ↔
      ∃ opening clause, OpeningText parameter opening ∧ FormatterText formatter clause ∧
        text = opening ++ clause ++ rest ∧ Stops isLetter rest := by
  rw [readHead?_eq, Option.bind_eq_some_iff]
  constructor
  · rintro ⟨⟨name, behind⟩, opened, success⟩
    cases found : (readComma? behind).bind readFormatter? with
    | none => simp [found] at success
    | some pair =>
        simp only [found, Option.some.injEq, Prod.mk.injEq] at success
        obtain ⟨rfl, rfl, rfl⟩ := success
        obtain ⟨opening, written, rfl, -⟩ := readOpening_eq_some_iff.mp opened
        obtain ⟨clause, named, rfl, stops⟩ := readFormatterText_eq_some_iff.mp found
        exact ⟨opening, clause, written, named, (List.append_assoc _ _ _).symm, stops⟩
  · rintro ⟨opening, clause, written, named, rfl, stops⟩
    refine ⟨(parameter, clause ++ rest), readOpening_eq_some_iff.mpr
      ⟨opening, written, List.append_assoc _ _ _, (named.stops rest).lower⟩, ?_⟩
    simp only [readFormatterText_eq_some_iff.mpr ⟨clause, named, rfl, stops⟩]

theorem readSettingsStart?_eq_some_iff {text clause : List Char} :
    readSettingsStart? text = some clause ↔
      ∃ comma, Comma comma ∧ text = comma ++ clause ∧ clause.head? = some '{' := by
  constructor
  · intro success
    unfold readSettingsStart? at success
    split at success
    · rename_i rest found
      cases success
      obtain ⟨comma, written, split, -⟩ := readComma?_eq_some_iff.mp found
      exact ⟨comma, written, split, rfl⟩
    · cases success
  · rintro ⟨comma, written, split, brace⟩
    obtain ⟨rest, rfl⟩ := List.head?_eq_some_iff.mp brace
    have found := readComma?_eq_some_iff.mpr
      ⟨comma, written, split, stops_cons.mpr (by decide)⟩
    unfold readSettingsStart?
    rw [found]
    rfl

/-! ## Settings -/

/-- A brace is no blank, so something is left to read from it on. -/
theorem readSettings_of_brace {clause : List Char} (brace : clause.head? = some '{') :
    readSettings clause =
      match Json.readFirst clause with
      | .ok result => .ok result
      | .error fault => .error ⟨.malformedSettings (fault.toError clause),
          Text.seek clause (fault.position clause)⟩ := by
  obtain ⟨inner, rfl⟩ := List.head?_eq_some_iff.mp brace
  rfl

theorem readSettings_eq_ok_iff {clause left : List Char} {settings : Settings}
    (brace : clause.head? = some '{') :
    readSettings clause = .ok (settings, left) ↔
      ∃ object, Json.ObjectText object settings ∧ clause = object ++ left := by
  rw [← Json.readFirst_brace_iff brace, readSettings_of_brace brace]
  cases Json.readFirst clause <;> simp

/-- The reader fails at a brace iff no object begins there. -/
theorem not_beginsObject_iff {clause : List Char} (brace : clause.head? = some '{') :
    ¬ BeginsObject clause ↔ ∃ fault, Json.readFirst clause = .error fault := by
  constructor
  · intro absent
    cases read : Json.readFirst clause with
    | error fault => exact ⟨fault, rfl⟩
    | ok result =>
        obtain ⟨object, spelled, split⟩ := (Json.readFirst_brace_iff brace).mp read
        exact absurd ⟨object, result.1, result.2, spelled, split⟩ absent
  · rintro ⟨fault, failure⟩ ⟨object, settings, left, spelled, rfl⟩
    rw [spelled.readFirst_append left] at failure
    cases failure

/-- The end of a slot with settings: what is read behind the comma of the settings. -/
def readSettingsEnd (parameter formatter : String) (clause : List Char) :
    Except SlotFault (Option (Slot × List Char)) := do
  let (settings, left) ← readSettings clause
  match readClose? left with
  | some behind => .ok (some (⟨parameter, some ⟨formatter, some settings⟩⟩, behind))
  | none => .error ⟨.unclosed, skipBlanks left⟩

/-- Where settings begin they decide what is read. -/
theorem readSlot_of_settings {parameter formatter : String}
    {opening text comma clause : List Char} (opened : OpeningText parameter opening)
    (named : FormatterText formatter text) (written : Comma comma)
    (brace : clause.head? = some '{') :
    readSlot (opening ++ text ++ comma ++ clause) =
      readSettingsEnd parameter formatter clause := by
  have head : readHead? (opening ++ text ++ comma ++ clause) =
      some (parameter, some formatter, comma ++ clause) :=
    readHead?_eq_formatter_iff.mpr
      ⟨opening, text, opened, named, List.append_assoc _ _ _, written.stops clause⟩
  have start : readSettingsStart? (comma ++ clause) = some clause :=
    readSettingsStart?_eq_some_iff.mpr ⟨comma, written, rfl, brace⟩
  unfold readSlot
  simp only [head, start]
  rfl

theorem readSettingsEnd_eq_some_iff {parameter formatter : String} {clause rest : List Char}
    {slot : Slot} (brace : clause.head? = some '{') :
    readSettingsEnd parameter formatter clause = .ok (some (slot, rest)) ↔
      ∃ object settings closing, Json.ObjectText object settings ∧ Closing closing ∧
        clause = object ++ closing ++ rest ∧
        slot = ⟨parameter, some ⟨formatter, some settings⟩⟩ := by
  constructor
  · intro success
    unfold readSettingsEnd at success
    cases read : readSettings clause with
    | error fault => simp [read, bind, Except.bind] at success
    | ok result =>
        obtain ⟨settings, left⟩ := result
        obtain ⟨object, spelled, rfl⟩ := (readSettings_eq_ok_iff brace).mp read
        simp only [read, bind, Except.bind] at success
        split at success <;> cases success
        rename_i closed
        obtain ⟨closing, written, rfl⟩ := readClose?_eq_some_iff.mp closed
        exact ⟨object, settings, closing, spelled, written,
          (List.append_assoc _ _ _).symm, rfl⟩
  · rintro ⟨object, settings, closing, spelled, written, rfl, rfl⟩
    have read := (readSettings_eq_ok_iff brace).mpr
      ⟨object, spelled, List.append_assoc object closing rest⟩
    unfold readSettingsEnd
    simp only [read, bind, Except.bind, written.read rest]

theorem readSettingsEnd_eq_error_iff {parameter formatter : String} {clause : List Char}
    {fault : SlotFault} (brace : clause.head? = some '{') :
    readSettingsEnd parameter formatter clause = .error fault ↔ ClauseFault clause fault := by
  constructor
  · intro failure
    unfold readSettingsEnd at failure
    cases read : readSettings clause with
    | error found =>
        simp only [read, bind, Except.bind, Except.error.injEq] at failure
        subst failure
        rw [readSettings_of_brace brace] at read
        split at read <;> cases read
        rename_i found fails
        exact .malformed ((not_beginsObject_iff brace).mpr ⟨found, fails⟩) fails
    | ok result =>
        obtain ⟨settings, left⟩ := result
        obtain ⟨object, spelled, split⟩ := (readSettings_eq_ok_iff brace).mp read
        simp only [read, bind, Except.bind] at failure
        split at failure <;> cases failure
        rename_i unclosed
        exact .unclosed spelled split (readClose?_eq_none_iff.mp unclosed)
  · intro wrong
    unfold readSettingsEnd
    cases wrong with
    | malformed absent fails =>
        rw [readSettings_of_brace brace]
        simp only [fails]
        rfl
    | unclosed spelled split unclosed =>
        have read := (readSettings_eq_ok_iff brace).mpr ⟨_, spelled, split⟩
        simp only [read, bind, Except.bind, readClose?_eq_none_iff.mpr unclosed]

/-- Settings that begin never leave the text to stand for itself. -/
theorem readSettingsEnd_ne_none (parameter formatter : String) (clause : List Char) :
    readSettingsEnd parameter formatter clause ≠ .ok none := by
  intro success
  unfold readSettingsEnd at success
  cases read : readSettings clause with
  | error fault => simp [read, bind, Except.bind] at success
  | ok result =>
      simp only [read, bind, Except.bind] at success
      split at success <;> cases success

/-! ## The slot -/

/-- A slot is read with a given rest iff it is written in front of that rest. -/
theorem readSlot_eq_some_iff {text rest : List Char} {slot : Slot} :
    readSlot text = .ok (some (slot, rest)) ↔
      ∃ span, SlotText slot span ∧ text = span ++ rest := by
  constructor
  · intro success
    unfold readSlot at success
    split at success
    · cases success
    · -- Only a parameter is named.
      rename_i parameter behind head
      obtain ⟨opening, opened, rfl, -, -⟩ := readHead?_eq_bare_iff.mp head
      simp only [Except.ok.injEq, Option.map_eq_some_iff, Prod.mk.injEq] at success
      obtain ⟨left, closed, rfl, rfl⟩ := success
      obtain ⟨closing, written, rfl⟩ := readClose?_eq_some_iff.mp closed
      exact ⟨opening ++ [] ++ closing, .intro opened .absent written, by simp⟩
    · rename_i parameter formatter behind head
      obtain ⟨opening, text, opened, named, rfl, -⟩ := readHead?_eq_formatter_iff.mp head
      split at success
      · -- A formatter is named, and no settings begin behind it.
        simp only [Except.ok.injEq, Option.map_eq_some_iff, Prod.mk.injEq] at success
        obtain ⟨left, closed, rfl, rfl⟩ := success
        obtain ⟨closing, written, rfl⟩ := readClose?_eq_some_iff.mp closed
        exact ⟨opening ++ text ++ closing, .intro opened (.bare named) written, by simp⟩
      · rename_i clause start
        obtain ⟨comma, separated, rfl, brace⟩ := readSettingsStart?_eq_some_iff.mp start
        obtain ⟨object, settings, closing, spelled, written, rfl, rfl⟩ :=
          (readSettingsEnd_eq_some_iff brace).mp success
        exact ⟨opening ++ (text ++ comma ++ object) ++ closing,
          .intro opened (.withSettings named separated spelled) written, by simp⟩
  · rintro ⟨span, spelled, rfl⟩
    -- The rest begins with no letter, blank or comma that a reader would take with the slot.
    cases spelled with
    | @intro parameter call opening middle closing opened called written =>
        have closed := written.read rest
        cases called with
        | absent =>
            have head : readHead? (opening ++ [] ++ closing ++ rest) =
                some (parameter, none, closing ++ rest) := by
              refine readHead?_eq_bare_iff.mpr
                ⟨opening, opened, by simp, (written.stops rest).lower, ?_⟩
              rw [readComma?_closing written]
              rfl
            unfold readSlot
            simp only [head, closed, Option.map_some]
        | bare named =>
            have head := readHead?_eq_formatter_iff.mpr
              ⟨opening, middle, opened, named, List.append_assoc (opening ++ middle) closing rest,
                written.stops rest⟩
            have start : readSettingsStart? (closing ++ rest) = none := by
              unfold readSettingsStart?
              rw [readComma?_closing written]
            unfold readSlot
            simp only [head, start, closed, Option.map_some]
        | @withSettings formatter settings text comma object named separated spelled =>
            have brace : (object ++ closing ++ rest).head? = some '{' := by
              obtain ⟨inner, rfl⟩ := List.head?_eq_some_iff.mp spelled.brace
              rfl
            have split : opening ++ (text ++ comma ++ object) ++ closing ++ rest =
                opening ++ text ++ comma ++ (object ++ closing ++ rest) := by simp
            rw [split, readSlot_of_settings opened named separated brace]
            exact (readSettingsEnd_eq_some_iff brace).mpr
              ⟨object, settings, closing, spelled, written, rfl, rfl⟩

/-- A slot is read in front of every text. -/
theorem SlotText.read {slot : Slot} {span : List Char} (spelled : SlotText slot span)
    (rest : List Char) : readSlot (span ++ rest) = .ok (some (slot, rest)) :=
  readSlot_eq_some_iff.mpr ⟨span, spelled, rfl⟩

/-- Reading fails iff the slot has that fault in its settings. -/
theorem readSlot_eq_error_iff {text : List Char} {fault : SlotFault} :
    readSlot text = .error fault ↔ Malformed text fault := by
  constructor
  · intro failure
    unfold readSlot at failure
    split at failure
    · cases failure
    · cases failure
    · rename_i parameter formatter behind head
      split at failure
      · cases failure
      · rename_i clause start
        obtain ⟨opening, text, opened, named, rfl, -⟩ := readHead?_eq_formatter_iff.mp head
        obtain ⟨comma, separated, rfl, brace⟩ := readSettingsStart?_eq_some_iff.mp start
        refine ⟨clause, ?_, (readSettingsEnd_eq_error_iff brace).mp failure⟩
        rw [← List.append_assoc]
        exact .intro opened named separated brace
  · rintro ⟨clause, ⟨opened, named, separated, brace⟩, wrong⟩
    rw [readSlot_of_settings opened named separated brace]
    exact (readSettingsEnd_eq_error_iff brace).mpr wrong

/-- Nothing is read iff the first character stands for itself. -/
theorem readSlot_eq_none_iff {text : List Char} :
    readSlot text = .ok none ↔ Literal text := by
  constructor
  · intro nothing
    constructor
    · rintro ⟨slot, span, rest, spelled, split⟩
      rw [readSlot_eq_some_iff.mpr ⟨span, spelled, split⟩] at nothing
      cases nothing
    · -- The reader would have gone on to the settings, and could only have failed there.
      rintro ⟨clause, opened, named, separated, brace⟩
      rw [readSlot_of_settings opened named separated brace] at nothing
      exact readSettingsEnd_ne_none _ _ _ nothing
  · rintro ⟨noSlot, noSettings⟩
    cases read : readSlot text with
    | error fault =>
        obtain ⟨clause, begins, -⟩ := readSlot_eq_error_iff.mp read
        exact absurd ⟨clause, begins⟩ noSettings
    | ok result =>
        cases result with
        | none => rfl
        | some result =>
            obtain ⟨span, spelled, split⟩ := readSlot_eq_some_iff.mp read
            exact absurd ⟨result.1, span, result.2, spelled, split⟩ noSlot

/-! ## Consequences -/

/-- A text begins with at most one slot, written in one way. -/
theorem SlotText.unique {slot other : Slot} {span otherSpan rest otherRest : List Char}
    (spelled : SlotText slot span) (otherSpelled : SlotText other otherSpan)
    (same : span ++ rest = otherSpan ++ otherRest) :
    slot = other ∧ span = otherSpan ∧ rest = otherRest := by
  have read := spelled.read rest
  have again := readSlot_eq_some_iff.mpr ⟨otherSpan, otherSpelled, same⟩
  rw [read] at again
  simp only [Except.ok.injEq, Option.some.injEq, Prod.mk.injEq] at again
  obtain ⟨rfl, rfl⟩ := again
  exact ⟨rfl, List.append_cancel_right same, rfl⟩

/-- A place has at most one fault. -/
theorem Malformed.unique {text : List Char} {fault other : SlotFault}
    (wrong : Malformed text fault) (otherWrong : Malformed text other) : fault = other := by
  have failure := readSlot_eq_error_iff.mpr wrong
  rw [readSlot_eq_error_iff.mpr otherWrong] at failure
  cases failure
  rfl

/-- A place with a fault is not the beginning of a slot. -/
theorem Malformed.not_beginsSlot {text : List Char} {fault : SlotFault}
    (wrong : Malformed text fault) : ¬ BeginsSlot text := by
  rintro ⟨slot, span, rest, spelled, split⟩
  have read := readSlot_eq_some_iff.mpr ⟨span, spelled, split⟩
  rw [readSlot_eq_error_iff.mpr wrong] at read
  cases read

end Phrasebook.Template
