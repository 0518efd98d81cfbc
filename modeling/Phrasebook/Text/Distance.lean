/-!
# Close names

The Levenshtein distance of two texts, and the names of a list that are closest to a name.
-/

namespace Phrasebook.Text

/-- The distances of a text to every ending of another, the longest ending first, once its first
character `c` is put before a text whose distances to these endings are known. -/
def extendDistances (c : Char) : List Char → List Nat → List Nat
  | d :: other, whole :: shorter =>
    let behind := extendDistances c other shorter
    let same := shorter.headD 0 + if c = d then 0 else 1
    min (min (whole + 1) (behind.headD 0 + 1)) same :: behind
  | _, distances => distances.map (· + 1)

/-- The distances of a text to every ending of another, the longest ending first. -/
def distances : List Char → List Char → List Nat
  | [], other => (List.range (other.length + 1)).reverse
  | c :: rest, other => extendDistances c other (distances rest other)

/-- The least number of characters to insert, delete or replace that turns one text into the
other. -/
def distance (text other : List Char) : Nat := (distances text other).headD 0

/-- The greatest distance at which a name still counts as close: one for names of up to three
characters, two for longer ones. -/
def closeLimit (name : String) : Nat := if name.length ≤ 3 then 1 else 2

/-- How two candidates are ranked: by distance, then by name. -/
def ranksBefore (first second : Nat × String) : Bool :=
  first.1 < second.1 || (first.1 == second.1 && decide (first.2 ≤ second.2))

/-- The names of `available` that are close to `name`, at most three, the closest first and
names of equal distance in byte order. -/
def closest (name : String) (available : List String) : List String :=
  let scored := available.map fun candidate =>
    (distance name.toList candidate.toList, candidate)
  let close := scored.filter fun candidate => candidate.1 ≤ closeLimit name
  ((close.mergeSort ranksBefore).take 3).map (·.2)

end Phrasebook.Text
