import Phrasebook.Table

/-!
# Phrase files

What reading a text file can fail with, and a tree of directories and files held in memory, from
which phrase files can be read as from a disk. A path is walked name by name, from the directory
that the tree stands in or, if it begins with a slash, from above it; of the directories above,
only that they are there is known. A file brings the directories on its path, which stay when it
is taken away.
-/

namespace Phrasebook

inductive ReadFailure where
  | notFound
  | notDirectory
  | isDirectory
  | tooLong
  | zeroInPath
  | notText
  deriving DecidableEq, Repr

def ReadFailure.message : ReadFailure → String
  | .notFound => "No such file or directory (os error 2)"
  | .notDirectory => "Not a directory (os error 20)"
  | .isDirectory => "Is a directory (os error 21)"
  | .tooLong => "File name too long (os error 36)"
  | .zeroInPath => "file name contained an unexpected NUL byte"
  | .notText => "stream did not contain valid UTF-8"

/-- Whether a failure means that something has the path. -/
def ReadFailure.exists : ReadFailure → Bool
  | .isDirectory => true
  | .notText => true
  | _ => false

/-- A way to read text files by their paths. -/
abbrev FileReader := String → Except ReadFailure String

inductive Place where
  -- The place with these names on the way to it, in the directory that the tree stands in.
  | within (names : List String)
  | above
  deriving DecidableEq, Repr

def Place.parent : Place → Place
  | .within [] => .above
  | .within names => .within names.dropLast
  | .above => .above

/-- The contents of files, and directories, by the names on the way to them. -/
structure Files where
  -- The files, the newest first.
  contents : List (List String × ByteArray)
  directories : List (List String)

namespace Files

def empty : Files := ⟨[], []⟩

/-- How many bytes a name may have. -/
def nameLimit : Nat := 255

/-- How many bytes a path may have. -/
def pathLimit : Nat := 4095

def find? (files : Files) (names : List String) : Option ByteArray :=
  (files.contents.find? (·.1 == names)).map (·.2)

def isDirectory (files : Files) : Place → Bool
  | .within names => names.isEmpty || files.directories.contains names
  | .above => true

def has (files : Files) (names : List String) : Bool :=
  files.directories.contains names || (files.find? names).isSome

/-- The place that a name leads to. An empty name and a dot stay in the directory, and two dots
lead out of it. -/
def step (files : Files) (place : Place) (name : String) : Except ReadFailure Place :=
  if !files.isDirectory place then .error .notDirectory
  else if name = "" ∨ name = "." then .ok place
  else if name = ".." then .ok place.parent
  else if nameLimit < name.utf8ByteSize then .error .tooLong
  else
    match place with
    | .within names =>
      if files.has (names ++ [name]) then .ok (.within (names ++ [name])) else .error .notFound
    | .above => .error .notFound

def start (path : String) : Place := if path.startsWith "/" then .above else .within []

def place (files : Files) (path : String) : Except ReadFailure Place :=
  if path.toList.contains '\x00' then .error .zeroInPath
  else if path = "" then .error .notFound
  else if pathLimit < path.utf8ByteSize then .error .tooLong
  else (path.splitOn "/").foldlM files.step (start path)

/-- The names of the file that a path leads to. -/
def file? (files : Files) (path : String) : Option (List String) :=
  match files.place path with
  | .ok (.within names) => if (files.find? names).isSome then some names else none
  | _ => none

def read (files : Files) : FileReader := fun path =>
  match files.place path with
  | .error failure => .error failure
  | .ok .above => .error .isDirectory
  | .ok (.within names) =>
    match files.find? names with
    | none => .error .isDirectory
    | some content =>
      match String.fromUTF8? content with
      | some text => .ok text
      | none => .error .notText

/-- Take the file with a path away. -/
def remove (files : Files) (path : String) : Files :=
  match files.file? path with
  | some names => { files with contents := files.contents.filter (·.1 != names) }
  | none => files

/-- Follow a name as `step` does, into a new directory if nothing has the name. -/
def enter (state : Files × Place) (name : String) : Except ReadFailure (Files × Place) :=
  match state.1.step state.2 name, state.2 with
  | .error .notFound, .within names =>
    let inner := names ++ [name]
    .ok ({ state.1 with directories := inner :: state.1.directories }, .within inner)
  | .error failure, _ => .error failure
  | .ok place, _ => .ok (state.1, place)

/-- Put a content under a path, in place of any it had, with the directories on the path. Nothing
changes where no file can be. -/
def write (files : Files) (path : String) (content : ByteArray) : Files :=
  let names := path.splitOn "/"
  match names.dropLast.foldlM enter (files, start path), names.getLast? with
  | .ok (files, directory), some name =>
    match files.step directory name, directory with
    | .error .notFound, .within names =>
      ⟨(names ++ [name], content) :: files.contents, files.directories⟩
    | .ok (.within names), _ =>
      if files.isDirectory (.within names) then files
      else ⟨(names, content) :: files.contents.filter (·.1 != names), files.directories⟩
    | _, _ => files
  | _, _ => files

end Files

end Phrasebook
