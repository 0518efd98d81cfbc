import Phrasebook.Command.Arguments
import Phrasebook.Report.PhraseFile
import Phrasebook.Text.Position

/-!
# Commands

The commands on phrase files and what they take: `translate` renders one phrase, `check` compiles
all phrases of files, and `coverage` compares locales with their source.
-/

namespace Phrasebook

structure TranslateRequest where
  phrases : String
  -- The name of the locale, if not that of the file.
  locale : Option String
  key : String
  params : List (String × String)
  json : Bool
  deriving DecidableEq, Repr

structure CheckRequest where
  files : List String
  json : Bool
  deriving DecidableEq, Repr

structure CoverageRequest where
  source : String
  locales : List String
  -- The directory of the locale files, if not that of the source.
  localeDirectory? : Option String
  strict : Bool
  json : Bool
  deriving DecidableEq, Repr

inductive Command where
  | translate (request : TranslateRequest)
  | check (request : CheckRequest)
  | coverage (request : CoverageRequest)
  deriving DecidableEq, Repr

namespace Command

def anyText (_ : String) : Option UsageError := none

def pathText (value : String) : Option UsageError :=
  if value.isEmpty then some .invalidValue else none

/-- The name and the text of the value in `name=value`. -/
def binding? (text : String) : Option (String × String) :=
  (Text.cut? '=' text.toList).map fun parts => (String.ofList parts.1, String.ofList parts.2)

/-- A parameter is given as `name=value`. -/
def bindingText (value : String) : Option UsageError :=
  if (binding? value).isNone then some .valueValidation else none

def jsonFlag : Parameter := ⟨"json", none, .flag, false, anyText⟩

def translateUsage : Usage where
  options :=
    [⟨"phrases", none, .single, true, pathText⟩,
     ⟨"locale", none, .single, false, anyText⟩,
     ⟨"key", none, .single, true, anyText⟩,
     ⟨"param", some 'p', .repeated, false, bindingText⟩,
     jsonFlag]
  operand := none

def checkUsage : Usage where
  options := [jsonFlag]
  operand := some ⟨"files", none, .repeated, true, pathText⟩

def coverageUsage : Usage where
  options :=
    [⟨"source", none, .single, true, pathText⟩,
     ⟨"lang", none, .repeated, false, anyText⟩,
     ⟨"translations", none, .single, false, pathText⟩,
     ⟨"strict", none, .flag, false, anyText⟩,
     jsonFlag]
  operand := none

def translateRequest (arguments : Arguments) : TranslateRequest where
  phrases := (arguments.first? "phrases").getD ""
  locale := arguments.first? "locale"
  key := (arguments.first? "key").getD ""
  params := (arguments.all "param").filterMap binding?
  json := arguments.has "json"

def checkRequest (arguments : Arguments) : CheckRequest where
  files := arguments.all "files"
  json := arguments.has "json"

/-- The request of the arguments of `coverage`; each value of `lang` is a row of names with
commas between them. -/
def coverageRequest (arguments : Arguments) : CoverageRequest where
  source := (arguments.first? "source").getD ""
  locales := (arguments.all "lang").flatMap fun names =>
    (Text.pieces ',' names.toList).map String.ofList
  localeDirectory? := arguments.first? "translations"
  strict := arguments.has "strict"
  json := arguments.has "json"

def ofArguments (name : String) (arguments : List String) : Except UsageError Command :=
  if name = "translate" then
    (translateUsage.read arguments).map fun given => .translate (translateRequest given)
  else if name = "check" then
    (checkUsage.read arguments).map fun given => .check (checkRequest given)
  else if name = "coverage" then
    (coverageUsage.read arguments).map fun given => .coverage (coverageRequest given)
  else .error .unknownArgument

/-- The directory of the locale files: beside the source unless it is given. -/
def CoverageRequest.directory (request : CoverageRequest) : String :=
  request.localeDirectory?.getD ((Path.parent? request.source).getD ".")

end Command

end Phrasebook
