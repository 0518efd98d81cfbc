import Phrasebook.Json.Reader
import Phrasebook.Template.Basic
import Phrasebook.Text.Position

/-!
# Compiling phrases

The written form of a slot is

    slot      = "{{" blank parameter [blank "," blank formatter [blank "," blank object]] blank "}}"
    parameter = lower {lower}
    formatter = lower {letter}

with any number of ASCII blanks at `blank` and a JSON object at `object`. A text is read from left
to right: where a slot is written it is taken as a whole, and any other character is literal. Only
one thing is wrong in a phrase: a comma behind a formatter that is followed by a brace must bring
settings, so the brace must begin a JSON object and the object must be followed by the end of the
slot.
-/

namespace Phrasebook

inductive CompileCause where
  | malformedSettings (error : Json.Error)
  -- Nothing but blanks is left where settings are read.
  | noSettings
  | unclosed
  deriving DecidableEq, Repr

/-- The wording of settings that are missing. -/
def noSettingsText : String := "expected a settings object"

/-- A phrase that does not compile, with the place of the fault in it. -/
structure CompileError where
  phrase : String
  -- The line and the column, in characters, of the fault.
  position : Position
  cause : CompileCause
  deriving DecidableEq, Repr

def CompileError.message (error : CompileError) : String :=
  let place :=
    s!"formatter settings at {error.position.line}:{error.position.column} in \"{error.phrase}\""
  match error.cause with
  | .malformedSettings fault => s!"malformed {place}: {fault.message}"
  | .noSettings => s!"malformed {place}: {noSettingsText}"
  | .unclosed => "expected `\x7d\x7d` after " ++ place

namespace Template

/-- The ASCII blanks that may stand inside a slot. -/
def isBlank (c : Char) : Bool := c = ' ' || c = '\t' || c = '\n' || c = '\x0c' || c = '\r'

def skipBlanks (text : List Char) : List Char := text.dropWhile isBlank

def isLower (c : Char) : Bool := 'a' ≤ c && c ≤ 'z'

def isLetter (c : Char) : Bool := isLower c || ('A' ≤ c && c ≤ 'Z')

def openMark : List Char := ['{', '{']

/-- The text behind an opening mark. -/
def readOpen? : List Char → Option (List Char)
  | '{' :: '{' :: rest => some rest
  | _ => none

/-- The text behind blanks and a closing mark. -/
def readClose? (text : List Char) : Option (List Char) :=
  match skipBlanks text with
  | '}' :: '}' :: rest => some rest
  | _ => none

/-- The text behind a comma with blanks around it. -/
def readComma? (text : List Char) : Option (List Char) :=
  match skipBlanks text with
  | ',' :: rest => some (skipBlanks rest)
  | _ => none

def readParameter? (text : List Char) : Option (String × List Char) :=
  match text.takeWhile isLower with
  | [] => none
  | name => some (String.ofList name, text.dropWhile isLower)

def readFormatter? : List Char → Option (String × List Char)
  | [] => none
  | first :: rest =>
    if isLower first then
      some (String.ofList (first :: rest.takeWhile isLetter), rest.dropWhile isLetter)
    else none

/-- The beginning of a slot: its parameter, its formatter if it names one, and the text behind
both. A comma without a formatter name behind it is left to that text. -/
def readHead? (text : List Char) : Option (String × Option String × List Char) := do
  let opened ← readOpen? text
  let (parameter, behind) ← readParameter? (skipBlanks opened)
  match (readComma? behind).bind readFormatter? with
  | some (formatter, rest) => some (parameter, some formatter, rest)
  | none => some (parameter, none, behind)

/-- The text from the brace on that begins the settings of a slot. -/
def readSettingsStart? (text : List Char) : Option (List Char) :=
  match readComma? text with
  | some ('{' :: rest) => some ('{' :: rest)
  | _ => none

/-- A fault in a slot: its cause, and the rest of the text from its place on. -/
structure SlotFault where
  cause : CompileCause
  -- The text from the place of the fault on.
  rest : List Char

/-- The settings at the beginning of a text and the text behind them. A fault is placed at the
character with the line and column number that reading reports, counted from the beginning of
the settings. -/
def readSettings (text : List Char) : Except SlotFault (Settings × List Char) :=
  if text.all Json.Reader.isBlank then .error ⟨.noSettings, text⟩
  else
    match Json.readFirst text with
    | .ok result => .ok result
    | .error fault =>
      let error := fault.toError text
      .error ⟨.malformedSettings error, Text.seek text error.position⟩

/-- Read the slot at the beginning of a text: the slot and the text behind it, or nothing if no
slot is written there. -/
def readSlot (text : List Char) : Except SlotFault (Option (Slot × List Char)) :=
  match readHead? text with
  | none => .ok none
  | some (parameter, none, rest) =>
    .ok ((readClose? rest).map fun behind => (⟨parameter, none⟩, behind))
  | some (parameter, some formatter, rest) =>
    match readSettingsStart? rest with
    | none =>
      .ok ((readClose? rest).map fun behind => (⟨parameter, some ⟨formatter, none⟩⟩, behind))
    | some settingsText => do
      let (settings, left) ← readSettings settingsText
      match readClose? left with
      | some behind => .ok (some (⟨parameter, some ⟨formatter, some settings⟩⟩, behind))
      | none => .error ⟨.unclosed, skipBlanks left⟩

/-- A part of a phrase: a literal character or a slot. -/
inductive Part where
  | literal (c : Char)
  | slot (slot : Slot)

/-- The parts of a text of at most `bound` characters. -/
def partsWithin : Nat → List Char → Except SlotFault (List Part)
  | 0, _ => .ok []
  | _ + 1, [] => .ok []
  | bound + 1, c :: rest => do
    match ← readSlot (c :: rest) with
    | some (slot, behind) => return .slot slot :: (← partsWithin bound behind)
    | none => return .literal c :: (← partsWithin bound rest)

/-- The parts of a text: a slot wherever one begins, and a literal character elsewhere. -/
def parts (text : List Char) : Except SlotFault (List Part) := partsWithin text.length text

/-- The literal characters up to the first slot, and the slots with the characters behind
each. -/
def gather : List Part → List Char × List (Slot × List Char)
  | [] => ([], [])
  | .literal c :: rest =>
    let (opening, slots) := gather rest
    (c :: opening, slots)
  | .slot slot :: rest =>
    let (opening, slots) := gather rest
    ([], (slot, opening) :: slots)

/-- The template of a row of parts: neighbouring characters form one fragment. -/
def ofParts (parts : List Part) : Template :=
  let (opening, slots) := gather parts
  { opening := String.ofList opening
    slots := slots.map fun slot => (slot.1, String.ofList slot.2) }

end Template

namespace Phrase

def compileChars (text : List Char) : Except Template.SlotFault Phrase :=
  if Text.occurs Template.openMark text then
    return .template (.ofParts (← Template.parts text))
  else .ok (.plain (String.ofList text))

/-- Compile a text: it is plain if no slot mark occurs in it. -/
def compile (text : String) : Except CompileError Phrase :=
  (compileChars text.toList).mapError fun fault =>
    ⟨text, .ofRest text.toList fault.rest, fault.cause⟩

end Phrase

end Phrasebook
