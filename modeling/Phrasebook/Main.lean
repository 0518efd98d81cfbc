import Phrasebook.Command.Run

/-!
# The program

Reads the files that a command names, runs the command on them, and prints its outcome.
-/

namespace Phrasebook

def readFailure : IO.Error → ReadFailure
  | .noFileOrDirectory .. => .notFound
  | .inappropriateType _ code _ => if code = 20 then .notDirectory else .isDirectory
  | .invalidArgument _ code _ => if code = 36 then .tooLong else .isDirectory
  | _ => .isDirectory

/-- The text of a file on the disk. -/
def readDisk (path : String) : IO (Except ReadFailure String) := do
  if path.toList.contains '\x00' then return .error .zeroInPath
  try
    let content ← IO.FS.readBinFile path
    match String.fromUTF8? content with
    | some text => return .ok text
    | none => return .error .notText
  catch error => return .error (readFailure error)

/-- A reader for files that have been read. -/
def readerOf (files : List (String × Except ReadFailure String)) : FileReader := fun path =>
  (files.lookup path).getD (.error .notFound)

def runOnDisk (command : Command) : IO UInt32 := do
  let files ← command.paths.mapM fun path => do return (path, ← readDisk path)
  let outcome := command.run (readerOf files)
  IO.print outcome.output
  if let some message := outcome.failure then IO.eprintln message
  return outcome.code.toUInt32

def usageMessage : UsageError → String
  | .missingRequired => "a required argument is missing"
  | .unknownArgument => "unexpected argument"
  | .invalidValue => "an option needs a value"
  | .valueValidation => "a parameter is given as name=value"
  | .argumentConflict => "an option is given twice"
  | .tooManyValues => "an option takes no value"

end Phrasebook

def main (arguments : List String) : IO UInt32 := do
  match arguments with
  | name :: rest =>
    match Phrasebook.Command.ofArguments name rest with
    | .ok command => Phrasebook.runOnDisk command
    | .error error =>
      IO.eprintln (Phrasebook.usageMessage error)
      return 2
  | [] =>
    IO.eprintln "usage: translate | check | coverage"
    return 2
