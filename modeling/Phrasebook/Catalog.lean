import Phrasebook.PhraseTree
import Phrasebook.Template.Compile
import Phrasebook.Template.Render

/-!
# Catalogs

A catalog holds the phrases of one locale under their keys, compiled, together with the scope they
are rendered in. It is made from a phrase tree; a single phrase that does not compile spoils the
whole catalog, and the one with the smallest key is reported.
-/

namespace Phrasebook

/-- What a locale is made from. -/
structure Definition where
  locale : String
  tree : Json
  -- The formatters and settings put over those that every locale starts from.
  overrides : Scope := ⟨.empty, .empty⟩

inductive CatalogError where
  | tree (error : TreeError)
  | phrase (locale key : String) (error : CompileError)
  deriving DecidableEq, Repr

def CatalogError.message : CatalogError → String
  | .tree error => error.message
  | .phrase locale key error => s!"locale '{locale}', phrase '{key}': {error.message}"

/-- The phrases of a locale and the scope they are rendered in. -/
structure Catalog where
  phrases : Table Phrase
  scope : Scope

/-- The text that stands for a key without phrase. -/
def missingText (key : String) : String := "[" ++ key ++ "]"

namespace Catalog

/-- Compile the texts under keys in order. A text that occurs under several keys is compiled
once: `seen` holds the phrases of the texts in front. -/
def compileEntries (locale : String) (seen : Table Phrase) :
    Entries String → Except CatalogError (Entries Phrase)
  | [] => .ok []
  | (key, text) :: rest =>
    match seen.get? text with
    | some phrase => (compileEntries locale seen rest).map ((key, phrase) :: ·)
    | none =>
      match Phrase.compile text with
      | .error error => .error (.phrase locale key error)
      | .ok phrase =>
        (compileEntries locale (seen.insert text phrase) rest).map ((key, phrase) :: ·)

def compilePhrases (locale : String) (texts : Table String) :
    Except CatalogError (Table Phrase) :=
  (compileEntries locale .empty texts.entries).map .ofEntries

/-- The catalog of a definition over the scope that every locale starts from. -/
def ofDefinition (base : Scope) (definition : Definition) : Except CatalogError Catalog :=
  match PhraseTree.flatten definition.locale definition.tree with
  | .error error => .error (.tree error)
  | .ok texts =>
    (compilePhrases definition.locale texts).map fun phrases =>
      ⟨phrases, base.overlay definition.overrides⟩

/-- The phrases of a catalog are those of the texts of a tree. -/
def MadeFrom (catalog : Catalog) (tree : Json) : Prop :=
  ∃ locale texts, PhraseTree.flatten locale tree = .ok texts ∧
    compilePhrases locale texts = .ok catalog.phrases

/-- The text of the phrase under a key; a key without phrase shows in brackets. -/
def translate (catalog : Catalog) (key : String) (params : Params) : String :=
  match catalog.phrases.get? key with
  | some phrase => phrase.render catalog.scope params
  | none => missingText key

end Catalog

/-- A catalog as a book holds it, with the tree that it was defined from. Its formatters and
settings may have been changed since; its phrases never change. -/
structure MadeCatalog where
  catalog : Catalog
  tree : Json
  made : catalog.MadeFrom tree

end Phrasebook
