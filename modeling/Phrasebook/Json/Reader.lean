import Phrasebook.Json.Numeral

/-!
# Reading JSON text

A machine that reads one character at a time: a mode says what may come next, and a stack holds
the arrays and objects that are still open. It stops behind the first complete document, so a
document can be read from the beginning of a longer text, and at the first character that no
document can go on with. Every character is looked at once, so reading is a recursion on the
text.
-/

namespace Phrasebook.Json

namespace Reader

/-- The deepest nesting of arrays and objects. -/
def depthLimit : Nat := 127

/-- An open array or object around the value that is being read. -/
inductive Frame where
  -- An array with its finished items, the newest first.
  | array (items : List Json)
  -- An object with its finished members, the newest first, and the name of the next one.
  | object (members : List (String × Json)) (name : String)

/-- What a string is read for. -/
inductive Role where
  | value
  -- It is the name of a member behind these finished ones.
  | name (members : List (String × Json))

/-- A string that is being read, its characters newest first. -/
structure Quoted where
  role : Role
  chars : List Char

def Quoted.push (quoted : Quoted) (c : Char) : Quoted := { quoted with chars := c :: quoted.chars }

/-- What may come next. -/
inductive Mode where
  | value
  | firstItem
  | item (items : List Json)
  | behindItem (items : List Json)
  | firstName
  | name (members : List (String × Json))
  | colon (members : List (String × Json)) (name : String)
  | behindMember (members : List (String × Json))
  | quoted (text : Quoted)
  | escape (text : Quoted)
  -- Hexadecimal digits of a code unit, behind the first half of a surrogate pair or not.
  | hex (text : Quoted) (high : Option Nat) (left code : Nat)
  | secondEscape (text : Quoted) (high : Nat)
  | secondMark (text : Quoted) (high : Nat)
  | number (negative : Bool) (numeral : Numeral)
  | word (left : List Char) (value : Json)

/-- The machine between two characters. -/
structure State where
  mode : Mode
  -- The open arrays and objects, the innermost first.
  stack : List Frame

def State.start : State := ⟨.value, []⟩

/-- What reading a character leads to. -/
inductive Outcome where
  | next (state : State)
  | done (value : Json)
  -- The document ended before this character.
  | doneBefore (value : Json)

def isBlank (c : Char) : Bool := c = ' ' || c = '\t' || c = '\n' || c = '\r'

/-- The state behind a finished value, or nothing if it is the whole document. -/
def behindValue? (value : Json) : List Frame → Option State
  | [] => none
  | .array items :: stack => some ⟨.behindItem (value :: items), stack⟩
  | .object members name :: stack => some ⟨.behindMember ((name, value) :: members), stack⟩

def finish (value : Json) (stack : List Frame) : Outcome :=
  match behindValue? value stack with
  | some state => .next state
  | none => .done value

def closeArray (items : List Json) (stack : List Frame) : Outcome :=
  finish (.array items.reverse) stack

def closeObject (members : List (String × Json)) (stack : List Frame) : Outcome :=
  finish (Json.ofMembers members.reverse) stack

/-- Open an array or object if it is not nested too deeply. -/
def openNested (mode : Mode) (stack : List Frame) (rest : List Char) : Except Fault Outcome :=
  if depthLimit ≤ stack.length then .error (.behind 1 rest .tooDeep)
  else .ok (.next ⟨mode, stack⟩)

def beginValue (stack : List Frame) (c : Char) (rest : List Char) : Except Fault Outcome :=
  if c = '"' then .ok (.next ⟨.quoted ⟨.value, []⟩, stack⟩)
  else if c = '[' then openNested .firstItem stack (c :: rest)
  else if c = '{' then openNested .firstName stack (c :: rest)
  else if c = '-' then .ok (.next ⟨.number true .sign, stack⟩)
  else if c = 'n' then .ok (.next ⟨.word ['u', 'l', 'l'] .null, stack⟩)
  else if c = 't' then .ok (.next ⟨.word ['r', 'u', 'e'] (.bool true), stack⟩)
  else if c = 'f' then .ok (.next ⟨.word ['a', 'l', 's', 'e'] (.bool false), stack⟩)
  else
    match Numeral.ofDigit? c with
    | some numeral => .ok (.next ⟨.number false numeral, stack⟩)
    | none => .error (.behind 1 (c :: rest) .expectedValue)

def beginName (members : List (String × Json)) (stack : List Frame) (c : Char)
    (rest : List Char) : Except Fault Outcome :=
  if c = '"' then .ok (.next ⟨.quoted ⟨.name members, []⟩, stack⟩)
  else .error (.behind 1 (c :: rest) .nameNotString)

/-- Read a character that is not blank between the parts of a document. -/
def punctuate (state : State) (c : Char) (rest : List Char) : Except Fault Outcome :=
  let wrong (cause : Cause) : Except Fault Outcome := .error (.behind 1 (c :: rest) cause)
  match state.mode with
  | .firstItem =>
    if c = ']' then .ok (closeArray [] state.stack)
    else beginValue (.array [] :: state.stack) c rest
  | .item items =>
    if c = ']' then wrong .trailingComma
    else beginValue (.array items :: state.stack) c rest
  | .behindItem items =>
    if c = ',' then .ok (.next ⟨.item items, state.stack⟩)
    else if c = ']' then .ok (closeArray items state.stack)
    else wrong .expectedArraySeparator
  | .firstName =>
    if c = '}' then .ok (closeObject [] state.stack)
    else beginName [] state.stack c rest
  | .name members =>
    if c = '}' then wrong .trailingComma else beginName members state.stack c rest
  | .colon members name =>
    if c = ':' then .ok (.next ⟨.value, .object members name :: state.stack⟩)
    else wrong .expectedColon
  | .behindMember members =>
    if c = ',' then .ok (.next ⟨.name members, state.stack⟩)
    else if c = '}' then .ok (closeObject members state.stack)
    else wrong .expectedObjectSeparator
  | _ => beginValue state.stack c rest

def stepBetween (state : State) (c : Char) (rest : List Char) : Except Fault Outcome :=
  if isBlank c then .ok (.next state) else punctuate state c rest

/-- End a string. -/
def finishQuoted (quoted : Quoted) (stack : List Frame) : Outcome :=
  let text := String.ofList quoted.chars.reverse
  match quoted.role with
  | .value => finish (.string text) stack
  | .name members => .next ⟨.colon members text, stack⟩

def stepQuoted (quoted : Quoted) (stack : List Frame) (c : Char) (rest : List Char) :
    Except Fault Outcome :=
  if c = '"' then .ok (finishQuoted quoted stack)
  else if c = '\\' then .ok (.next ⟨.escape quoted, stack⟩)
  else if c.toNat < 0x20 then .error (.behind 1 (c :: rest) .controlCharacter)
  else .ok (.next ⟨.quoted (quoted.push c), stack⟩)

/-- The character that a letter behind a backslash stands for. -/
def escaped? (c : Char) : Option Char :=
  if c = '"' ∨ c = '\\' ∨ c = '/' then some c
  else if c = 'b' then some '\x08'
  else if c = 'f' then some '\x0c'
  else if c = 'n' then some '\n'
  else if c = 'r' then some '\r'
  else if c = 't' then some '\t'
  else none

def stepEscape (quoted : Quoted) (stack : List Frame) (c : Char) (rest : List Char) :
    Except Fault Outcome :=
  if c = 'u' then .ok (.next ⟨.hex quoted none 4 0, stack⟩)
  else
    match escaped? c with
    | some character => .ok (.next ⟨.quoted (quoted.push character), stack⟩)
    | none => .error (.behind 1 (c :: rest) .invalidEscape)

def hexValue? (c : Char) : Option Nat :=
  if c.isDigit then some (c.toNat - 48)
  else if 'a' ≤ c ∧ c ≤ 'f' then some (c.toNat - 87)
  else if 'A' ≤ c ∧ c ≤ 'F' then some (c.toNat - 55)
  else none

def isHighSurrogate (code : Nat) : Bool := 0xD800 ≤ code && code ≤ 0xDBFF

def isLowSurrogate (code : Nat) : Bool := 0xDC00 ≤ code && code ≤ 0xDFFF

/-- A complete code unit: a character, or one half of a pair. -/
def finishHex (quoted : Quoted) (stack : List Frame) (high : Option Nat) (code : Nat)
    (rest : List Char) : Except Fault Outcome :=
  match high with
  | none =>
    if isLowSurrogate code then .error (.before rest .loneSurrogate)
    else if isHighSurrogate code then .ok (.next ⟨.secondEscape quoted code, stack⟩)
    else .ok (.next ⟨.quoted (quoted.push (Char.ofNat code)), stack⟩)
  | some first =>
    if isLowSurrogate code then
      let character := 0x10000 + (first - 0xD800) * 0x400 + (code - 0xDC00)
      .ok (.next ⟨.quoted (quoted.push (Char.ofNat character)), stack⟩)
    else .error (.before rest .loneSurrogate)

/-- Read a hexadecimal digit of which `left + 1` are still to come. The four digits are taken as
four bytes: a text that is shorter ends inside the string, and a byte that is no digit is noticed
behind all four. -/
def stepHex (quoted : Quoted) (stack : List Frame) (high : Option Nat) (left code : Nat)
    (c : Char) (rest : List Char) : Except Fault Outcome :=
  match hexValue? c with
  | some digit =>
    if left ≤ 1 then finishHex quoted stack high (code * 16 + digit) rest
    else .ok (.next ⟨.hex quoted high (left - 1) (code * 16 + digit), stack⟩)
  | none =>
    if Text.byteLength (c :: rest) < left then .error (.before [] .endInString)
    else .error (.behind left (c :: rest) .invalidEscape)

def step (state : State) (c : Char) (rest : List Char) : Except Fault Outcome :=
  match state.mode with
  | .quoted text => stepQuoted text state.stack c rest
  | .escape text => stepEscape text state.stack c rest
  | .hex text high left code => stepHex text state.stack high left code c rest
  | .secondEscape text high =>
    if c = '\\' then .ok (.next ⟨.secondMark text high, state.stack⟩)
    else .error (.behind 1 (c :: rest) .endOfHexEscape)
  | .secondMark text high =>
    if c = 'u' then .ok (.next ⟨.hex text (some high) 4 0, state.stack⟩)
    else .error (.behind 1 (c :: rest) .endOfHexEscape)
  | .number negative numeral => do
    match ← numeral.step c rest with
    | some longer => .ok (.next ⟨.number negative longer, state.stack⟩)
    | none =>
      let value ← numeral.toJson negative (c :: rest)
      match behindValue? value state.stack with
      | some behind => stepBetween behind c rest
      | none => .ok (.doneBefore value)
  | .word left value =>
    match left with
    | [] => .ok (finish value state.stack)
    | expected :: more =>
      if c ≠ expected then .error (.behind 1 (c :: rest) .expectedWord)
      else if more.isEmpty then .ok (finish value state.stack)
      else .ok (.next ⟨.word more value, state.stack⟩)
  | _ => stepBetween state c rest

/-- What is missing where a text ends. -/
def missingAtEnd : Mode → Cause
  | .value => .endInValue
  | .firstItem => .endInArray
  | .item _ => .endInValue
  | .behindItem _ => .endInArray
  | .firstName => .endInObject
  | .name _ => .endInValue
  | .colon _ _ => .endInObject
  | .behindMember _ => .endInObject
  | .quoted _ => .endInString
  | .escape _ => .endInString
  | .hex _ _ _ _ => .endInString
  | .secondEscape _ _ => .endInString
  | .secondMark _ _ => .endInString
  | .number _ _ => .endInValue
  | .word _ _ => .endInValue

/-- The document of a text that ends here: only a number can be complete. -/
def atEnd (state : State) : Except Fault Json :=
  match state.mode with
  | .number negative numeral => do
    let value ← numeral.toJson negative []
    match behindValue? value state.stack with
    | some behind => .error (.before [] (missingAtEnd behind.mode))
    | none => .ok value
  | mode => .error (.before [] (missingAtEnd mode))

/-- Read on until the document is complete; the text behind it is left over. -/
def run (state : State) : List Char → Except Fault (Json × List Char)
  | [] => (·, []) <$> atEnd state
  | c :: rest =>
    match step state c rest with
    | .error fault => .error fault
    | .ok (.next state) => run state rest
    | .ok (.done value) => .ok (value, rest)
    | .ok (.doneBefore value) => .ok (value, c :: rest)

end Reader

/-- Read a document from the beginning of a text; the text behind it is left over. -/
def readFirst (text : List Char) : Except Fault (Json × List Char) :=
  Reader.run .start text

def expectEnd (rest : List Char) : Except Fault Unit :=
  match rest.dropWhile Reader.isBlank with
  | [] => .ok ()
  | left => .error (.behind 1 left .trailingText)

/-- Read a text that is one document with blanks around it. -/
def readChars (text : List Char) : Except Fault Json := do
  let (value, rest) ← readFirst text
  expectEnd rest
  return value

/-- Read a text that is one document; a fault is reported with its line and byte column. -/
def read (text : String) : Except Error Json :=
  (readChars text.toList).mapError (·.toError text.toList)

end Phrasebook.Json
