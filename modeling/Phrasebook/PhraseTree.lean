import Phrasebook.Json.Basic

/-!
# Phrase trees

Phrases are written as a tree of objects with texts at its leaves. `flatten` lists the texts under
their keys: the names on the way from the root, joined by dots. Objects are visited depth first in
the byte order of their names; when two ways spell the same key, the text visited later is kept,
and the first leaf that is no text is reported.
-/

namespace Phrasebook

inductive TreeError where
  | invalidRoot (locale kind : String)
  | invalidLeaf (key kind : String)
  deriving DecidableEq, Repr

def TreeError.message : TreeError → String
  | .invalidRoot locale kind =>
    s!"phrase tree for locale '{locale}' must be an object, found {kind}"
  | .invalidLeaf key kind => s!"phrase '{key}' must be a string or an object, found {kind}"

namespace PhraseTree

/-- The key of a name below a key, or of a name at the root. -/
def joinKey : Option String → String → String
  | none, name => name
  | some above, name => above ++ "." ++ name

mutual

/-- The leaves at and below a document under a key, in the order of the visit. -/
def leavesAt (key : String) : Json → Except TreeError (Entries String)
  | .string text => .ok [(key, text)]
  | .object members => leavesOf (some key) members
  | other => .error (.invalidLeaf key other.kindName)

def leavesOf (above : Option String) : List (String × Json) → Except TreeError (Entries String)
  | [] => .ok []
  | (name, json) :: rest =>
    match leavesAt (joinKey above name) json with
    | .error error => .error error
    | .ok leaves =>
      match leavesOf above rest with
      | .error error => .error error
      | .ok others => .ok (leaves ++ others)

end

/-- The texts of a phrase tree under their keys. -/
def flatten (locale : String) : Json → Except TreeError (Table String)
  | .object members => (leavesOf none members).map .ofEntries
  | other => .error (.invalidRoot locale other.kindName)

end PhraseTree

end Phrasebook
