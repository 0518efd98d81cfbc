import Phrasebook.Text.Position

/-!
# Command-line arguments

What a command accepts is a list of parameters, and reading the arguments collects the values
given for each. A value given as the argument behind its option is settled only when the next
option, or the next value without option, begins, or at the end: an unknown argument is reported
before it is.
-/

namespace Phrasebook

inductive UsageError where
  | missingRequired
  | unknownArgument
  -- An option without its value, or an empty path.
  | invalidValue
  | valueValidation
  | argumentConflict
  -- A value for an option that takes none.
  | tooManyValues
  deriving DecidableEq, Repr

inductive Arity where
  | flag
  | single
  | repeated
  deriving DecidableEq, Repr

structure Parameter where
  name : String
  letter : Option Char
  arity : Arity
  required : Bool
  -- Why a value is refused, if it is.
  refuse : String → Option UsageError

structure Usage where
  options : List Parameter
  operand : Option Parameter

/-- The values given to a command. -/
structure Arguments where
  -- The names of the parameters that were given, with their values, in the order given.
  given : List (String × String)
  deriving DecidableEq, Repr

namespace Arguments

def has (arguments : Arguments) (name : String) : Bool :=
  arguments.given.any (·.1 == name)

def all (arguments : Arguments) (name : String) : List String :=
  (arguments.given.filter (·.1 == name)).map (·.2)

def first? (arguments : Arguments) (name : String) : Option String := (arguments.all name).head?

end Arguments

namespace Usage

structure Reading where
  arguments : Arguments
  -- A parameter whose values are not settled yet.
  pending : Option (Parameter × List String)
  -- Whether the pending parameter is an option that waits for its value.
  waiting : Bool
  operandsOnly : Bool

def Reading.start : Reading := ⟨⟨[]⟩, none, false, false⟩

/-- Settle values of a parameter: an option without repetition is given once, and each value is
checked. -/
def settleValues (arguments : Arguments) (parameter : Parameter) (values : List String) :
    Except UsageError Arguments :=
  if parameter.arity ≠ .repeated ∧ arguments.has parameter.name then .error .argumentConflict
  else
    match values.findSome? parameter.refuse with
    | some error => .error error
    | none => .ok ⟨arguments.given ++ values.map (parameter.name, ·)⟩

def settle (reading : Reading) : Except UsageError Reading :=
  match reading.pending with
  | none => .ok { reading with waiting := false }
  | some (_, []) => .error .invalidValue
  | some (parameter, values) =>
    (settleValues reading.arguments parameter values).map fun arguments =>
      ⟨arguments, none, false, reading.operandsOnly⟩

/-- Give a parameter together with its value, or a flag with an empty one. -/
def give (reading : Reading) (parameter : Parameter) (value : String) :
    Except UsageError Reading := do
  let reading ← settle reading
  let arguments ← settleValues reading.arguments parameter [value]
  return { reading with arguments := arguments }

/-- An option, with the value attached to it if one is. -/
def giveOption (reading : Reading) (parameter : Parameter) (attached : Option String) :
    Except UsageError Reading :=
  match parameter.arity, attached with
  | .flag, some _ => .error .tooManyValues
  | .flag, none => give reading parameter ""
  | _, some value => give reading parameter value
  | _, none => do
    let reading ← settle reading
    return { reading with pending := some (parameter, []), waiting := true }

/-- A value without option: that of the option waiting for one, or one more operand. -/
def giveValue (usage : Usage) (reading : Reading) (value : String) :
    Except UsageError Reading :=
  match reading.waiting && !reading.operandsOnly, reading.pending with
  | true, some (parameter, values) =>
    .ok { reading with pending := some (parameter, values ++ [value]), waiting := false }
  | _, _ =>
    match usage.operand with
    | none => .error .unknownArgument
    | some operand =>
      match reading.pending with
      | some (parameter, values) =>
        if parameter.name = operand.name then
          .ok { reading with pending := some (operand, values ++ [value]), waiting := false }
        else
          (settle reading).map fun reading => { reading with pending := some (operand, [value]) }
      | none => .ok { reading with pending := some (operand, [value]), waiting := false }

/-- An argument of the form `--name` or `--name=value`. -/
def readLong (usage : Usage) (reading : Reading) (text : List Char) :
    Except UsageError Reading :=
  let (name, attached) :=
    match Text.cut? '=' text with
    | some (name, value) => (String.ofList name, some (String.ofList value))
    | none => (String.ofList text, none)
  match usage.options.find? (·.name == name) with
  | some parameter => giveOption reading parameter attached
  | none => .error .unknownArgument

/-- An argument of the form `-x`, `-xvalue` or `-x=value`; the letters of flags may be run
together. -/
def readShort (usage : Usage) (reading : Reading) : List Char → Except UsageError Reading
  | [] => .ok reading
  | letter :: rest =>
    match usage.options.find? (·.letter == some letter) with
    | none => .error .unknownArgument
    | some parameter =>
      if parameter.arity = .flag then do
        let reading ← giveOption reading parameter none
        readShort usage reading rest
      else
        match rest with
        | [] => giveOption reading parameter none
        | '=' :: value => giveOption reading parameter (some (String.ofList value))
        | value => giveOption reading parameter (some (String.ofList value))

/-- Read one argument. A single hyphen is a value, and two hyphens end the options. -/
def readArgument (usage : Usage) (reading : Reading) (argument : String) :
    Except UsageError Reading :=
  if reading.operandsOnly then giveValue usage reading argument
  else
    match argument.toList with
    | ['-', '-'] => .ok { reading with operandsOnly := true }
    | '-' :: '-' :: text => readLong usage reading text
    | '-' :: letter :: rest => readShort usage reading (letter :: rest)
    | _ => giveValue usage reading argument

def parameters (usage : Usage) : List Parameter := usage.options ++ usage.operand.toList

def read (usage : Usage) (arguments : List String) : Except UsageError Arguments := do
  let reading ← arguments.foldlM (readArgument usage) .start
  let reading ← settle reading
  if usage.parameters.any fun parameter =>
      parameter.required && !reading.arguments.has parameter.name then
    throw .missingRequired
  return reading.arguments

end Usage

end Phrasebook
