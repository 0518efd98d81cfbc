import Phrasebook.Report.PhraseFile

/-!
# Coverage of locales

The keys of a locale are compared with the keys of the source: a key of the source is
translated or missing, and a key of the locale that the source has not is extra.
-/

namespace Phrasebook

/-- How a locale compares with the source. -/
structure Coverage where
  locale : String
  translated : Nat
  total : Nat
  missing : List String
  extra : List String
  deriving DecidableEq, Repr

namespace Coverage

/-- Compare the ascending keys of a locale with those of the source. -/
def compare (locale : String) (source keys : List String) : Coverage where
  locale := locale
  translated := (source.filter keys.contains).length
  total := source.length
  missing := source.filter fun key => !keys.contains key
  extra := keys.filter fun key => !source.contains key

def isComplete (coverage : Coverage) : Bool := coverage.missing.isEmpty

/-- The ascending keys of a phrase file, or the wording of what is wrong with it. -/
def fileKeys (read : FileReader) (path : String) : Except String (List String) :=
  match PhraseFile.readTree read path with
  | .error message => .error message
  | .ok tree =>
    match PhraseTree.flatten (PhraseFile.locale path) tree with
    | .error error => .error (path ++ ": " ++ error.message)
    | .ok texts => .ok texts.names

def pathExists (read : FileReader) (path : String) : Bool :=
  match read path with
  | .ok _ => true
  | .error failure => failure.exists

/-- The keys of a locale file; one that is not there has none. -/
def localeKeys (read : FileReader) (path : String) : Except String (List String) :=
  if pathExists read path then fileKeys read path else .ok []

def localePath (directory locale : String) : String :=
  Path.join directory (locale ++ ".json")

/-- Compare locales with the source, in the order of the locales. -/
def ofLocales (read : FileReader) (directory : String) (source : List String) :
    List String → Except String (List Coverage)
  | [] => .ok []
  | locale :: rest =>
    match localeKeys read (localePath directory locale) with
    | .error message => .error message
    | .ok keys => (ofLocales read directory source rest).map (compare locale source keys :: ·)

def cells (coverage : Coverage) : List String :=
  [coverage.locale, s!"{coverage.translated}/{coverage.total}",
    toString coverage.missing.length, toString coverage.extra.length]

def missingLines (coverage : Coverage) : List String :=
  if coverage.isComplete then []
  else "" :: s!"Missing in {coverage.locale}:" :: coverage.missing.map ("  - " ++ ·)

def toJson (coverage : Coverage) : Json := .object
  [("locale", .string coverage.locale),
   ("translated", .integer coverage.translated),
   ("total", .integer coverage.total),
   ("missing", .array (coverage.missing.map .string)),
   ("extra", .array (coverage.extra.map .string))]

end Coverage

end Phrasebook
