import Phrasebook.Catalog
import Phrasebook.Files
import Phrasebook.Formatter.BuiltIn
import Phrasebook.Text.Distance

/-!
# The phrase book

A book holds the catalogs of all locales defined so far, says which of them is active, and knows
from which file a locale was loaded. Every operation gives an answer and the book after it. An
operation that fails leaves the book as it was; the first locale ever defined becomes active, and
locales are replaced but never taken away.
-/

namespace Phrasebook

inductive DefineError where
  | catalog (error : CatalogError)
  | file (path : String) (failure : ReadFailure)
  | fileJson (path : String) (error : Json.Error)
  | textJson (locale : String) (error : Json.Error)
  | noOrigin (locale : String)
  deriving DecidableEq, Repr

def DefineError.message : DefineError → String
  | .catalog error => error.message
  | .file path failure => s!"failed to read '{path}': {failure.message}"
  | .fileJson path error => s!"invalid JSON in '{path}': {error.message}"
  | .textJson locale error => s!"invalid JSON for locale '{locale}': {error.message}"
  | .noOrigin locale => s!"cannot reload '{locale}': was not loaded from a file"

/-- A locale that is not defined, with the names of defined ones close to it. -/
structure LocaleNotFound where
  locale : String
  suggestions : List String
  deriving DecidableEq, Repr

def LocaleNotFound.message (error : LocaleNotFound) : String :=
  let found := s!"locale not found: '{error.locale}'"
  if error.suggestions.isEmpty then found
  else found ++ ", did you mean: " ++ String.intercalate ", " error.suggestions ++ "?"

/-- The catalogs of all locales and what they were made from. -/
structure Book where
  base : Scope
  catalogs : Table Catalog
  active : Option String
  origins : Table String
  templates : Table Phrase

namespace Book

def defaultLocale : String := "default"

def ofScope (base : Scope) : Book := ⟨base, .empty, none, .empty, .empty⟩

def new : Book := ofScope .builtIn

/-! ## Defining locales -/

/-- Define a locale, in place of any definition it had. The answer is the number of its
phrases. -/
def define (book : Book) (definition : Definition) : Except DefineError Nat × Book :=
  match Catalog.ofDefinition book.base definition with
  | .error error => (.error (.catalog error), book)
  | .ok catalog =>
    (.ok catalog.phrases.size,
      { book with
        catalogs := book.catalogs.insert definition.locale catalog
        active := book.active <|> some definition.locale })

/-- Define a locale by a JSON text. It cannot be loaded again from a file after that. -/
def defineText (book : Book) (locale text : String) : Except DefineError Nat × Book :=
  match Json.read text with
  | .error error => (.error (.textJson locale error), book)
  | .ok tree =>
    match book.define { locale := locale, tree := tree } with
    | (.ok count, book) => (.ok count, { book with origins := book.origins.erase locale })
    | failed => failed

/-- Define a locale by the file with a path, which is remembered. -/
def load (book : Book) (read : FileReader) (locale path : String) :
    Except DefineError Nat × Book :=
  match read path with
  | .error failure => (.error (.file path failure), book)
  | .ok text =>
    match Json.read text with
    | .error error => (.error (.fileJson path error), book)
    | .ok tree =>
      match book.define { locale := locale, tree := tree } with
      | (.ok count, book) => (.ok count, { book with origins := book.origins.insert locale path })
      | failed => failed

/-- Load a locale again from the file that it was loaded from. -/
def reload (book : Book) (read : FileReader) (locale : String) : Except DefineError Nat × Book :=
  match book.origins.get? locale with
  | none => (.error (.noOrigin locale), book)
  | some path => book.load read locale path

/-! ## Choosing a locale -/

def locales (book : Book) : List String := book.catalogs.names

def notFound (book : Book) (locale : String) : LocaleNotFound :=
  ⟨locale, Text.closest locale book.locales⟩

def activate (book : Book) (locale : String) : Except LocaleNotFound Unit × Book :=
  if book.catalogs.contains locale then (.ok (), { book with active := some locale })
  else (.error (book.notFound locale), book)

def activeCatalog? (book : Book) : Option Catalog := book.active.bind book.catalogs.get?

/-- The scope of the active locale, or the one that locales start from. -/
def activeScope (book : Book) : Scope :=
  match book.activeCatalog? with
  | some catalog => catalog.scope
  | none => book.base

/-! ## Rendering -/

/-- The text of the phrase under a key in the active locale. -/
def translate (book : Book) (key : String) (params : Params) : String :=
  match book.activeCatalog? with
  | some catalog => catalog.translate key params
  | none => missingText key

/-- The text of the phrase under a key in a given locale. -/
def translateIn (book : Book) (locale key : String) (params : Params) :
    Except LocaleNotFound String :=
  match book.catalogs.get? locale with
  | some catalog => .ok (catalog.translate key params)
  | none => .error (book.notFound locale)

/-- The text of the phrase under a key below a namespace in the active locale. -/
def translateBelow (book : Book) (space key : String) (params : Params) : String :=
  book.translate (space ++ "." ++ key) params

/-- The compiled form of a text, which is kept for the next time. -/
def template (book : Book) (text : String) : Except CompileError Phrase × Book :=
  match book.templates.get? text with
  | some phrase => (.ok phrase, book)
  | none =>
    match Phrase.compile text with
    | .error error => (.error error, book)
    | .ok phrase => (.ok phrase, { book with templates := book.templates.insert text phrase })

/-- The text of a phrase that is given itself, in the active locale. -/
def render (book : Book) (text : String) (params : Params) : Except CompileError String × Book :=
  match book.template text with
  | (.ok phrase, book) => (.ok (phrase.render book.activeScope params), book)
  | (.error error, book) => (.error error, book)

def clearTemplates (book : Book) : Book := { book with templates := .empty }

/-! ## Changing formatters and settings -/

/-- Change the scope that newly defined locales start from; defined ones keep theirs. -/
def changeBase (book : Book) (change : Scope → Scope) : Book :=
  { book with base := change book.base }

def changeCatalog (book : Book) (locale : String) (change : Scope → Scope) : Book :=
  { book with
    catalogs := book.catalogs.modify locale fun catalog =>
      { catalog with scope := change catalog.scope } }

/-- Put another catalog in the place of the one that a locale has. A locale that is not defined
stays so. -/
def replaceCatalog (book : Book) (locale : String) (made : MadeCatalog) : Book :=
  { book with catalogs := book.catalogs.modify locale fun _ => made.catalog }

/-- Put a formatter under a name in every locale, the defined and the future ones. -/
def register (book : Book) (name : String) (formatter : Formatter) : Book :=
  { book with
    base := book.base.register name formatter
    catalogs := book.catalogs.map fun catalog =>
      { catalog with scope := catalog.scope.register name formatter } }

end Book

end Phrasebook
