import Phrasebook.Template.Compile

/-!
# Diagnostics

A fault in a phrase or in a phrase file as it is shown to the author of the file: what is wrong,
in which text, and at which byte of it.
-/

namespace Phrasebook

/-- A fault with the place to show. -/
structure Diagnostic where
  message : String
  help : Option String
  source : String
  offset : Nat
  deriving DecidableEq, Repr

namespace Diagnostic

def code : String := "phrasekit::syntax"

def label : String := "error here"

def markLength : Nat := 1

/-- What helps where settings are no JSON object. -/
def settingsHelp : String :=
  "formatter settings must be a JSON object, e.g. \x7b\"fractionCount\": 0\x7d"

/-- The diagnostic of a phrase that does not compile, in a file under a key. -/
def ofCompileError (path key : String) (error : CompileError) : Diagnostic :=
  let (fault, help) :=
    match error.cause with
    | .malformedSettings json => (json.message, settingsHelp)
    | .noSettings => (noSettingsText, settingsHelp)
    | .unclosed =>
      ("expected `\x7d\x7d` after formatter settings",
        "close the placeholder right after the settings object")
  { message := "invalid placeholder: " ++ fault
    help := some help
    source := path ++ " [" ++ key ++ "]"
    offset := Text.markOffset error.phrase.toList error.position }

/-- The diagnostic of a file that is no JSON text. -/
def ofJsonError (path content : String) (error : Json.Error) : Diagnostic where
  message := "invalid JSON: " ++ error.message
  help := none
  source := path
  offset := Text.markOffset content.toList error.position

end Diagnostic

end Phrasebook
