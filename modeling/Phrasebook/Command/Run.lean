import Phrasebook.Book.Basic
import Phrasebook.Command.Basic
import Phrasebook.Report.Check
import Phrasebook.Report.Coverage
import Phrasebook.Report.Grid

/-!
# Running commands

A command reads phrase files and gives an exit code with the text it prints, or the wording of why
it failed. It reads nothing but the files, so its outcome is a function of them.
-/

namespace Phrasebook

/-- What a command leads to. -/
structure Outcome where
  code : Nat
  output : String
  failure : Option String
  deriving DecidableEq, Repr

namespace Outcome

/-- The exit code of a command with nothing to object to. -/
def okCode : Nat := 0

/-- The exit code of a command that found fault with the phrases. -/
def dataCode : Nat := 65

/-- The exit code of a command that failed. -/
def failureCode : Nat := 70

/-- The outcome of printing lines. -/
def printed (faultless : Bool) (lines : List String) : Outcome :=
  ⟨if faultless then okCode else dataCode, String.join (lines.map (· ++ "\n")), none⟩

def failed (message : String) : Outcome := ⟨failureCode, "", some message⟩

end Outcome

namespace Command

/-- The value of a parameter given as a text: the value of the document that the text is, or the
text itself. -/
def paramValue (text : String) : Value :=
  match Json.read text with
  | .ok json => .ofJson json
  | .error _ => .text text

/-- The values of parameters; the last value of a name counts. -/
def params (given : List (String × String)) : Params :=
  .ofEntries (given.map fun entry => (entry.1, paramValue entry.2))

/-- The wording of a locale that cannot be defined: a phrase that does not compile is shown as a
diagnostic. -/
def defineFailure (path : String) : DefineError → String
  | .catalog (.phrase _ key error) => (Diagnostic.ofCompileError path key error).message
  | error => error.message

def renderedJson (locale key result : String) (isMissing : Bool) : Json := .object
  [("locale", .string locale), ("key", .string key), ("result", .string result),
   ("missing", .bool isMissing)]

def runTranslate (read : FileReader) (request : TranslateRequest) : Outcome :=
  let locale := request.locale.getD (PhraseFile.locale request.phrases)
  match PhraseFile.readTree read request.phrases with
  | .error message => .failed message
  | .ok tree =>
    match Book.new.define { locale := locale, tree := tree } with
    | (.error error, _) => .failed (defineFailure request.phrases error)
    | (.ok _, book) =>
      let result := book.translate request.key (params request.params)
      let found := (book.catalogs.get? locale).any (·.phrases.contains request.key)
      let line :=
        if request.json then (renderedJson locale request.key result !found).indented
        else result
      .printed found [line]

def runCheck (read : FileReader) (request : CheckRequest) : Outcome :=
  let reports := request.files.map (FileReport.ofFile read)
  let lines :=
    if request.json then [(Json.array (reports.map FileReport.toJson)).indented]
    else reports.map FileReport.line
  .printed (reports.all FileReport.isClean) lines

def coverageHeader : List String := ["Locale", "Coverage", "Missing", "Extra"]

def runCoverage (read : FileReader) (request : CoverageRequest) : Outcome :=
  match Coverage.fileKeys read request.source with
  | .error message => .failed message
  | .ok source =>
    match Coverage.ofLocales read (CoverageRequest.directory request) source request.locales with
    | .error message => .failed message
    | .ok coverages =>
      let lines :=
        if request.json then [(Json.array (coverages.map Coverage.toJson)).indented]
        else Grid.lines coverageHeader (coverages.map Coverage.cells)
          ++ coverages.flatMap Coverage.missingLines
      .printed (!request.strict || coverages.all Coverage.isComplete) lines

def run (read : FileReader) : Command → Outcome
  | .translate request => runTranslate read request
  | .check request => runCheck read request
  | .coverage request => runCoverage read request

/-- The paths of the files that a command may read. -/
def paths : Command → List String
  | .translate request => [request.phrases]
  | .check request => request.files
  | .coverage request =>
    request.source ::
      request.locales.map (Coverage.localePath (CoverageRequest.directory request))

end Command

end Phrasebook
