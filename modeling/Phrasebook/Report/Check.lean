import Phrasebook.Report.PhraseFile

/-!
# Checking phrase files

A file is checked by compiling each of its phrases. Every phrase that does not compile is
reported, in the byte order of the keys; a file that is no phrase tree has one problem without
key.
-/

namespace Phrasebook

/-- Something wrong in a phrase file. -/
structure Problem where
  key : Option String
  -- The place in the phrase; without key line and column are zero.
  position : Position
  message : String
  deriving DecidableEq, Repr

structure FileReport where
  file : String
  phrases : Nat
  slots : Nat
  problems : List Problem
  deriving DecidableEq, Repr

namespace FileReport

/-- The report of a file that is no phrase tree. -/
def unreadable (file message : String) : FileReport :=
  ⟨file, 0, 0, [⟨none, ⟨0, 0⟩, message⟩]⟩

def problem (key : String) (error : CompileError) : Problem :=
  ⟨some key, error.position, error.message⟩

def slotCount (text : String) : Nat :=
  match Phrase.compile text with
  | .ok phrase => phrase.slotCount
  | .error _ => 0

def problem? (key text : String) : Option Problem :=
  match Phrase.compile text with
  | .ok _ => none
  | .error error => some (problem key error)

def ofTexts (file : String) (texts : Table String) : FileReport where
  file := file
  phrases := texts.size
  slots := (texts.entries.map fun entry => slotCount entry.2).foldr (· + ·) 0
  problems := texts.entries.filterMap fun entry => problem? entry.1 entry.2

def ofFile (read : FileReader) (path : String) : FileReport :=
  match PhraseFile.readTree read path with
  | .error message => unreadable path message
  | .ok tree =>
    match PhraseTree.flatten (PhraseFile.locale path) tree with
    | .error error => unreadable path error.message
    | .ok texts => ofTexts path texts

def isClean (report : FileReport) : Bool := report.problems.isEmpty

def line (report : FileReport) : String :=
  if report.isClean then
    s!"✓ {report.file}: {report.phrases} phrases, {report.slots} placeholders"
  else s!"✗ {report.file}: {report.problems.length} errors"

def problemJson (problem : Problem) : Json := .object
  [("key", match problem.key with
      | some key => .string key
      | none => .null),
   ("line", .integer problem.position.line),
   ("column", .integer problem.position.column),
   ("message", .string problem.message)]

def toJson (report : FileReport) : Json := .object
  [("file", .string report.file),
   ("phrases", .integer report.phrases),
   ("placeholders", .integer report.slots),
   ("errors", .array (report.problems.map problemJson))]

end FileReport

end Phrasebook
