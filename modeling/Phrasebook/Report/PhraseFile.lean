import Phrasebook.Book.Basic
import Phrasebook.Path
import Phrasebook.Report.Diagnostic

/-!
# Phrase files

What the commands read from a phrase file, and how they report a file that cannot be read or
parsed.
-/

namespace Phrasebook.PhraseFile

/-- The name of the locale that a file holds: its name up to the last dot. -/
def locale (path : String) : String := (Path.fileStem? path).getD Book.defaultLocale

/-- The phrase tree of a file, or the wording of what is wrong with it. -/
def readTree (read : FileReader) (path : String) : Except String Json :=
  match read path with
  | .error _ => .error ("failed to read " ++ path)
  | .ok content =>
    (Json.read content).mapError fun error => (Diagnostic.ofJsonError path content error).message

end Phrasebook.PhraseFile
