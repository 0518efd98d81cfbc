import Phrasebook.Proofs.Json.ObjectText
import Phrasebook.Template.Compile
import Mathlib

/-!
# The written form of a slot

The grammar of slots as relations between what is written and what it means, one relation for
each production:

    slot      = opening [call] closing
    opening   = "{{" blanks parameter
    call      = comma formatter [comma object]
    comma     = blanks "," blanks
    closing   = blanks "}}"

A place of a text is `Literal` if neither a slot nor the beginning of a slot up to the brace of
its settings is written there. Where only that beginning is written, `ClauseFault` says what is
wrong. Nothing here mentions how a text is read.
-/

namespace Phrasebook.Template

/-- A run of blanks. -/
def Blanks (text : List Char) : Prop := ∀ c ∈ text, isBlank c = true

/-- A comma with blanks around it. -/
inductive Comma : List Char → Prop
  | intro {before after : List Char} : Blanks before → Blanks after →
      Comma (before ++ ',' :: after)

/-- The end of a slot. -/
inductive Closing : List Char → Prop
  | intro {blanks : List Char} : Blanks blanks → Closing (blanks ++ ['}', '}'])

/-- The name of a parameter: lower-case letters, at least one. -/
inductive ParameterName : List Char → Prop
  | intro {first : Char} {others : List Char} : isLower first = true →
      (∀ c ∈ others, isLower c = true) → ParameterName (first :: others)

/-- The name of a formatter: a lower-case letter and any letters behind it. -/
inductive FormatterName : List Char → Prop
  | intro {first : Char} {others : List Char} : isLower first = true →
      (∀ c ∈ others, isLetter c = true) → FormatterName (first :: others)

/-- A slot up to its parameter. -/
inductive OpeningText : String → List Char → Prop
  | intro {blanks name : List Char} : Blanks blanks → ParameterName name →
      OpeningText (String.ofList name) (openMark ++ blanks ++ name)

/-- A comma and the formatter behind it. -/
inductive FormatterText : String → List Char → Prop
  | intro {comma name : List Char} : Comma comma → FormatterName name →
      FormatterText (String.ofList name) (comma ++ name)

/-- What may stand between the parameter and the end of a slot. -/
inductive CallText : Option Call → List Char → Prop
  | absent : CallText none []
  | bare {formatter : String} {text : List Char} : FormatterText formatter text →
      CallText (some ⟨formatter, none⟩) text
  | withSettings {formatter : String} {settings : Settings} {text comma object : List Char} :
      FormatterText formatter text → Comma comma → Json.ObjectText object settings →
      CallText (some ⟨formatter, some settings⟩) (text ++ comma ++ object)

/-- The written forms of a slot. -/
inductive SlotText : Slot → List Char → Prop
  | intro {parameter : String} {call : Option Call} {opening middle closing : List Char} :
      OpeningText parameter opening → CallText call middle → Closing closing →
      SlotText ⟨parameter, call⟩ (opening ++ middle ++ closing)

/-- A text that begins with a parameter, a formatter and a comma and goes on with the clause of
settings, which begins with a brace. -/
inductive SettingsAt : List Char → List Char → Prop
  | intro {parameter formatter : String} {opening text comma clause : List Char} :
      OpeningText parameter opening → FormatterText formatter text → Comma comma →
      clause.head? = some '{' → SettingsAt (opening ++ text ++ comma ++ clause) clause

/-- A slot is written at the beginning of a text. -/
def BeginsSlot (text : List Char) : Prop :=
  ∃ slot span rest, SlotText slot span ∧ text = span ++ rest

/-- A slot is written at the beginning of a text up to the brace of its settings. -/
def BeginsSettings (text : List Char) : Prop := ∃ clause, SettingsAt text clause

/-- The first character of a text stands for itself. -/
structure Literal (text : List Char) : Prop where
  noSlot : ¬ BeginsSlot text
  noSettings : ¬ BeginsSettings text

/-- The clause of settings begins with an object. -/
def BeginsObject (clause : List Char) : Prop :=
  ∃ object settings left, Json.ObjectText object settings ∧ clause = object ++ left

/-- The end of a slot is written at the beginning of a text. -/
def BeginsClosing (text : List Char) : Prop :=
  ∃ closing rest, Closing closing ∧ text = closing ++ rest

/-- The clause of settings is an object with the end of the slot behind it. -/
def ObjectClosed (clause : List Char) : Prop :=
  ∃ object settings left, Json.ObjectText object settings ∧ clause = object ++ left ∧
    BeginsClosing left

/-- The clause of settings is an object without the end of the slot behind it. -/
def ObjectUnclosed (clause : List Char) : Prop :=
  ∃ object settings left, Json.ObjectText object settings ∧ clause = object ++ left ∧
    ¬ BeginsClosing left

/-- What is wrong with a clause of settings: no object begins there, or the slot does not end
behind the object. -/
inductive ClauseFault (clause : List Char) : SlotFault → Prop
  | malformed {fault : Json.Fault} : ¬ BeginsObject clause →
      Json.readFirst clause = .error fault →
      ClauseFault clause ⟨.malformedSettings (fault.toError clause),
        Text.seek clause (fault.position clause)⟩
  | unclosed {object left : List Char} {settings : Settings} :
      Json.ObjectText object settings → clause = object ++ left → ¬ BeginsClosing left →
      ClauseFault clause ⟨.unclosed, skipBlanks left⟩

/-- A slot with a fault in its settings is written at the beginning of a text. -/
def Malformed (text : List Char) (fault : SlotFault) : Prop :=
  ∃ clause, SettingsAt text clause ∧ ClauseFault clause fault

/-! ## First characters -/

/-- A text that does not go on with a character of a class. -/
def Stops (within : Char → Bool) (text : List Char) : Prop :=
  ∀ c ∈ text.head?, within c = false

theorem stops_cons {within : Char → Bool} {c : Char} {rest : List Char} :
    Stops within (c :: rest) ↔ within c = false := by
  simp [Stops]

theorem stops_dropWhile (within : Char → Bool) (text : List Char) :
    Stops within (text.dropWhile within) := by
  intro c first
  have fails := List.head?_dropWhile_not within text
  rw [Option.mem_def.mp first] at fails
  exact fails

theorem Stops.takeWhile {within : Char → Bool} {rest : List Char} (stops : Stops within rest) :
    rest.takeWhile within = [] := by
  cases rest with
  | nil => rfl
  | cons c rest => rw [List.takeWhile_cons_of_neg (by simp [stops_cons.mp stops])]

theorem Stops.dropWhile {within : Char → Bool} {rest : List Char} (stops : Stops within rest) :
    rest.dropWhile within = rest := by
  cases rest with
  | nil => rfl
  | cons c rest => rw [List.dropWhile_cons_of_neg (by simp [stops_cons.mp stops])]

/-- A letter is no blank. -/
theorem isLetter_of_isBlank {c : Char} (blank : isBlank c = true) : isLetter c = false := by
  simp only [isBlank, Bool.or_eq_true, decide_eq_true_eq] at blank
  rcases blank with (((rfl | rfl) | rfl) | rfl) | rfl <;> decide

/-- A lower-case letter is a letter. -/
theorem isLetter_of_isLower {c : Char} (lower : isLower c = true) : isLetter c = true := by
  simp [isLetter, lower]

theorem isLower_of_isLetter {c : Char} (other : isLetter c = false) : isLower c = false := by
  simp only [isLetter, Bool.or_eq_false_iff] at other
  exact other.1

theorem isBlank_of_isLower {c : Char} (lower : isLower c = true) : isBlank c = false := by
  cases blank : isBlank c with
  | false => rfl
  | true =>
      have letter := isLetter_of_isLower lower
      rw [isLetter_of_isBlank blank] at letter
      cases letter

theorem Stops.lower {rest : List Char} (stops : Stops isLetter rest) : Stops isLower rest :=
  fun c first => isLower_of_isLetter (stops c first)

/-- Blanks in front of a character that is no letter keep letters away. -/
theorem Blanks.stops {blanks : List Char} (all : Blanks blanks) {c : Char}
    (other : isLetter c = false) (rest : List Char) : Stops isLetter (blanks ++ c :: rest) := by
  cases blanks with
  | nil => exact stops_cons.mpr other
  | cons blank blanks => exact stops_cons.mpr (isLetter_of_isBlank (all blank List.mem_cons_self))

theorem Comma.stops {comma : List Char} (written : Comma comma) (rest : List Char) :
    Stops isLetter (comma ++ rest) := by
  cases written with
  | intro before after =>
      rw [List.append_assoc, List.cons_append]
      exact before.stops (by decide) _

theorem Closing.stops {closing : List Char} (written : Closing closing) (rest : List Char) :
    Stops isLetter (closing ++ rest) := by
  cases written with
  | intro blanks =>
      rw [List.append_assoc, List.cons_append]
      exact blanks.stops (by decide) _

theorem FormatterText.stops {formatter : String} {text : List Char}
    (written : FormatterText formatter text) (rest : List Char) :
    Stops isLetter (text ++ rest) := by
  cases written with
  | intro comma name =>
      rw [List.append_assoc]
      exact comma.stops _

end Phrasebook.Template
