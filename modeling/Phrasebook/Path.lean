/-!
# Paths of files

The parts of a path that the commands need: the name that a file gives to its locale, and the
directory beside whose files it stands. Names are separated by slashes; a separator or a single
dot at the end of a path names nothing.
-/

namespace Phrasebook.Path

/-- The path without separators and single dots at its end, in reverse. -/
def trimmedEnd : List Char → List Char
  | '/' :: rest => trimmedEnd rest
  | '.' :: '/' :: rest => trimmedEnd ('/' :: rest)
  | reversed => reversed

/-- The last name of a path, if it ends with the name of a file or directory. -/
def fileName? (path : String) : Option String :=
  let name := ((trimmedEnd path.toList.reverse).takeWhile (· != '/')).reverse
  if name = [] ∨ name = ['.'] ∨ name = ['.', '.'] then none else some (String.ofList name)

/-- The last name of a path up to its last dot; a dot at its beginning belongs to the name. -/
def fileStem? (path : String) : Option String :=
  (fileName? path).map fun name =>
    let reversed := name.toList.reverse
    match (reversed.dropWhile (· != '.')).drop 1 with
    | [] => name
    | stem => String.ofList stem.reverse

/-- The path up to its last name, or nothing if it names the root or nothing at all. -/
def parent? (path : String) : Option String :=
  match trimmedEnd path.toList.reverse with
  | [] => none
  | reversed =>
    let above := reversed.dropWhile (· != '/')
    let trimmed := trimmedEnd above
    some (String.ofList (if trimmed = [] ∧ above ≠ [] then ['/'] else trimmed.reverse))

/-- The path of a name in a directory; a name that begins at the root stands for itself. -/
def join (directory name : String) : String :=
  if directory.isEmpty ∨ name.startsWith "/" then name
  else if directory.endsWith "/" then directory ++ name
  else directory ++ "/" ++ name

end Phrasebook.Path
