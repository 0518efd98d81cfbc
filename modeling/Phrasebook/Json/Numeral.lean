import Phrasebook.Double.Text
import Phrasebook.Json.Basic
import Phrasebook.Json.Fault

/-!
# Numbers in JSON text

A number is read character by character. `Numeral` is what has been read of it: the significand
stays exact while it fits 64 bits, and digits beyond that only count as powers of ten. A number
with neither fraction nor exponent that fits 64 bits stays whole; any other becomes a double by
scaling the rounded significand with a power of ten, rounding once more.
-/

namespace Phrasebook.Json

/-- The part of a number that has been read, its sign apart. -/
inductive Numeral where
  | sign
  | zero
  | digits (significand : Nat)
  -- Digits of which the last `dropped` no longer fitted.
  | longDigits (significand dropped : Nat)
  | point (significand : Nat) (exponent : Int)
  | fraction (significand : Nat) (exponent : Int)
  -- Digits behind the point of which the last ones no longer fitted and are ignored.
  | longFraction (significand : Nat) (exponent : Int)
  | exponentMark (significand : Nat) (exponent : Int)
  | exponentSign (significand : Nat) (exponent : Int) (negative : Bool)
  | exponentDigits (significand : Nat) (exponent : Int) (negative : Bool) (read : Nat)
  -- An exponent so large that only zero is left.
  | vanished
  deriving DecidableEq, Repr

namespace Numeral

def greatestSignificand : Nat := Nat.pow 2 64 - 1

/-- The greatest number that an exponent's digits may spell. -/
def greatestExponent : Nat := Nat.pow 2 31 - 1

def isExponentMark (c : Char) : Bool := c = 'e' || c = 'E'

def ofDigit? (c : Char) : Option Numeral :=
  if c = '0' then some .zero
  else if c.isDigit then some (.digits (Double.digitValue c))
  else none

def addFraction (significand : Nat) (exponent : Int) (c : Char) : Numeral :=
  let longer := significand * 10 + Double.digitValue c
  if greatestSignificand < longer then .longFraction significand exponent
  else .fraction longer (exponent - 1)

/-- What may follow the digits: a point, an exponent, or nothing more of the number. -/
def behindDigits (significand : Nat) (exponent : Int) (c : Char) : Option Numeral :=
  if c = '.' then some (.point significand exponent)
  else if isExponentMark c then some (.exponentMark significand exponent)
  else none

/-- What may follow the digits behind the point. -/
def behindFraction (significand : Nat) (exponent : Int) (c : Char) : Option Numeral :=
  if isExponentMark c then some (.exponentMark significand exponent) else none

def addExponent (significand : Nat) (exponent : Int) (negative : Bool) (read : Nat)
    (c : Char) (rest : List Char) : Except Fault Numeral :=
  let longer := read * 10 + Double.digitValue c
  if longer ≤ greatestExponent then .ok (.exponentDigits significand exponent negative longer)
  else if significand = 0 ∨ negative then .ok .vanished
  else .error (.behind 1 (c :: rest) .numberOutOfRange)

/-- The fault of a number that cannot go on with the character `c`. -/
def misspelled (c : Char) (rest : List Char) : Except Fault (Option Numeral) :=
  .error (.behind 1 (c :: rest) .invalidNumber)

/-- Read the next character `c` of a number: the longer numeral, or nothing if the number ends
before it. -/
def step (numeral : Numeral) (c : Char) (rest : List Char) : Except Fault (Option Numeral) :=
  match numeral with
  | .sign =>
    match ofDigit? c with
    | some first => .ok (some first)
    | none => misspelled c rest
  | .zero => if c.isDigit then misspelled c rest else .ok (behindDigits 0 0 c)
  | .digits s =>
    if c.isDigit then
      let longer := s * 10 + Double.digitValue c
      .ok (some (if greatestSignificand < longer then .longDigits s 1 else .digits longer))
    else .ok (behindDigits s 0 c)
  | .longDigits s dropped =>
    if c.isDigit then .ok (some (.longDigits s (dropped + 1)))
    else .ok (behindDigits s dropped c)
  | .point s e => if c.isDigit then .ok (some (addFraction s e c)) else misspelled c rest
  | .fraction s e =>
    if c.isDigit then .ok (some (addFraction s e c)) else .ok (behindFraction s e c)
  | .longFraction s e =>
    if c.isDigit then .ok (some (.longFraction s e)) else .ok (behindFraction s e c)
  | .exponentMark s e =>
    if c = '+' then .ok (some (.exponentSign s e false))
    else if c = '-' then .ok (some (.exponentSign s e true))
    else if c.isDigit then some <$> addExponent s e false 0 c rest
    else misspelled c rest
  | .exponentSign s e negative =>
    if c.isDigit then some <$> addExponent s e negative 0 c rest else misspelled c rest
  | .exponentDigits s e negative read =>
    if c.isDigit then some <$> addExponent s e negative read c rest else .ok none
  | .vanished => .ok (if c.isDigit then some .vanished else none)

/-- A significand times a power of ten of at most 308 in one step; smaller powers are taken 308
at a time. Nothing if the result is above every finite double. -/
def scaleWithin : Nat → Double → Int → Option Double
  | 0, x, _ => some x
  | bound + 1, x, exponent =>
    if 0 ≤ exponent then
      if 308 < exponent then if x.isZero then some x else none
      else
        match x.mul (.ofRatio false (.power 10 exponent)) with
        | .infinite _ => none
        | product => some product
    else if -308 ≤ exponent then some (x.div (.ofRatio false (.power 10 (-exponent))))
    else if x.isZero then some x
    else scaleWithin bound (x.div (.ofRatio false (.power 10 308))) (exponent + 308)

def toDouble? (negative : Bool) (significand : Nat) (exponent : Int) : Option Double :=
  (scaleWithin (exponent.natAbs + 1) (.ofInt significand) exponent).map fun x =>
    if negative then x.neg else x

/-- A whole number: negative ones fit 64 bits with their sign, and minus zero is a double. -/
def wholeNumber (negative : Bool) (significand : Nat) : Json :=
  if ¬ negative then .integer significand
  else if significand = 0 ∨ Nat.pow 2 63 < significand then .float (Double.ofInt significand).neg
  else .integer (-significand)

/-- The document of a significand and a power of ten, spelled before `rest`. -/
def scaled (negative : Bool) (significand : Nat) (exponent : Int) (rest : List Char) :
    Except Fault Json :=
  match toDouble? negative significand exponent with
  | some x => .ok (.float x)
  | none => .error (.before rest .numberOutOfRange)

/-- The fault of a number that cannot end before `rest`. -/
def unfinished (rest : List Char) : Except Fault Json := .error (.before rest .endInValue)

/-- The document of a number that ends before `rest`. -/
def toJson (numeral : Numeral) (negative : Bool) (rest : List Char) : Except Fault Json :=
  match numeral with
  | .zero => .ok (wholeNumber negative 0)
  | .digits s => .ok (wholeNumber negative s)
  | .longDigits s dropped => scaled negative s dropped rest
  | .fraction s e => scaled negative s e rest
  | .longFraction s e => scaled negative s e rest
  | .exponentDigits s e below read =>
    scaled negative s (if below then e - read else e + read) rest
  | .vanished => .ok (.float (.ofRank negative 0))
  | .sign => unfinished rest
  | .point _ _ => unfinished rest
  | .exponentMark _ _ => unfinished rest
  | .exponentSign _ _ _ => unfinished rest

end Numeral

end Phrasebook.Json
