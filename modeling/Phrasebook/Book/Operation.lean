import Phrasebook.Book.Basic

/-!
# Histories of a book

The operations on a book as data, and what a row of them does. An operation is performed with a
way to read files, because files change between operations; what it answers is recorded, so a
history says which operations succeeded.
-/

namespace Phrasebook

/-- An operation on a book. -/
inductive Operation where
  | define (definition : Definition)
  | defineText (locale text : String)
  | load (locale path : String)
  | reload (locale : String)
  | activate (locale : String)
  | translate (key : String) (params : Params)
  | translateIn (locale key : String) (params : Params)
  | render (text : String) (params : Params)
  | clearTemplates
  | register (name : String) (formatter : Formatter)
  | changeBase (change : Scope → Scope)
  | changeCatalog (locale : String) (change : Scope → Scope)
  -- The catalog that comes in may be that of another locale, or of another book.
  | replaceCatalog (locale : String) (made : MadeCatalog)

inductive Answer where
  | defined (count : Nat)
  | rendered (text : String)
  | done
  deriving DecidableEq, Repr

inductive OperationError where
  | define (error : DefineError)
  | locale (error : LocaleNotFound)
  | compile (error : CompileError)
  deriving DecidableEq, Repr

namespace Book

/-- The answer of an operation in another type. -/
def answering {ε α : Type} (failure : ε → OperationError) (answer : α → Answer) :
    Except ε α × Book → Except OperationError Answer × Book
  | (.ok value, book) => (.ok (answer value), book)
  | (.error error, book) => (.error (failure error), book)

def perform (book : Book) (read : FileReader) :
    Operation → Except OperationError Answer × Book
  | .define definition => answering .define .defined (book.define definition)
  | .defineText locale text => answering .define .defined (book.defineText locale text)
  | .load locale path => answering .define .defined (book.load read locale path)
  | .reload locale => answering .define .defined (book.reload read locale)
  | .activate locale => answering .locale (fun _ => .done) (book.activate locale)
  | .translate key params => (.ok (.rendered (book.translate key params)), book)
  | .translateIn locale key params =>
    answering .locale .rendered (book.translateIn locale key params, book)
  | .render text params => answering .compile .rendered (book.render text params)
  | .clearTemplates => (.ok .done, book.clearTemplates)
  | .register name formatter => (.ok .done, book.register name formatter)
  | .changeBase change => (.ok .done, book.changeBase change)
  | .changeCatalog locale change => (.ok .done, book.changeCatalog locale change)
  | .replaceCatalog locale made => (.ok .done, book.replaceCatalog locale made)

/-- Perform operations one after the other, also behind one that fails. -/
def run (book : Book) : List (Operation × FileReader) → Book
  | [] => book
  | (operation, read) :: rest => run (book.perform read operation).2 rest

end Book

end Phrasebook
