import Phrasebook.Double.Shortest

/-!
# Doubles as text

The two ways a double is written, both with the digits of its shortest decimal: `plainText`
never uses an exponent, and `scientificText` uses one outside a band of magnitudes. The way it
is read: a sign, and digits with an optional point and exponent or a word for a number that is
not finite; the result is the double nearest to the numeral.
-/

namespace Phrasebook.Double

def zeros (count : Nat) : List Char := List.replicate count '0'

def signText (negative : Bool) : List Char := if negative then ['-'] else []

/-- A decimal without exponent; a whole number has neither point nor fraction. -/
def positional (x : Decimal) : List Char :=
  let digits := Nat.toDigits 10 x.digits
  if 0 ≤ x.exponent then
    if x.digits = 0 then ['0'] else digits ++ zeros x.exponent.toNat
  else
    let places := (-x.exponent).toNat
    if digits.length ≤ places then
      '0' :: '.' :: (zeros (places - digits.length) ++ digits)
    else
      digits.take (digits.length - places) ++ '.' :: digits.drop (digits.length - places)

/-- A decimal with an exponent that has a sign, the point behind the first digit. -/
def exponential (x : Decimal) : List Char :=
  let digits := Nat.toDigits 10 x.digits
  let power : Int := x.exponent + (digits.length - 1 : Nat)
  let shown := if 0 ≤ power then '+' :: Nat.toDigits 10 power.toNat
    else '-' :: Nat.toDigits 10 (-power).toNat
  match digits with
  | [single] => single :: 'e' :: shown
  | first :: others => first :: '.' :: (others ++ 'e' :: shown)
  | [] => []

/-- The text without exponent: the shortest digits, no fraction on a whole number, `-0` for the
negative zero. A value between two shortest decimals takes the greater one. -/
def plainText : Double → String
  | .nan => "NaN"
  | .infinite negative => String.ofList (signText negative) ++ "inf"
  | .finite negative rank => String.ofList (signText negative ++ positional (shortest .up rank))

/-- The power of ten of the first digit of a decimal. -/
def leadingPower (x : Decimal) : Int := x.exponent + ((Nat.toDigits 10 x.digits).length - 1 : Nat)

/-- The text that data formats use: positional with at least one fraction digit while the first
digit stands at a power of ten from -5 to 15, else with an exponent. A value between two shortest
decimals takes the even one, and numbers that are not finite have no text. -/
def scientificText? : Double → Option String
  | .nan => none
  | .infinite _ => none
  | .finite negative rank =>
    let x := shortest .even rank
    let body :=
      if -5 ≤ leadingPower x ∧ leadingPower x ≤ 15 then
        positional x ++ if 0 ≤ x.exponent then ['.', '0'] else []
      else exponential x
    some (String.ofList (signText negative ++ body))

/-! ## Reading -/

def digitValue (c : Char) : Nat := c.toNat - 48

/-- The number that a row of decimal digits spells. -/
def digitsValue (digits : List Char) : Nat :=
  digits.foldl (fun n c => n * 10 + digitValue c) 0

/-- The exponent that `e` or `E`, an optional sign and at least one digit spell. -/
def readExponent? : List Char → Option Int
  | [] => some 0
  | mark :: text =>
    if mark = 'e' ∨ mark = 'E' then
      let (negative, digits) :=
        match text with
        | '-' :: rest => (true, rest)
        | '+' :: rest => (false, rest)
        | rest => (false, rest)
      if digits.isEmpty ∨ ¬ digits.all Char.isDigit then none
      else some (if negative then -digitsValue digits else digitsValue digits)
    else none

/-- The decimal that digits with an optional point among, before or behind them and an optional
exponent spell. -/
def readDecimal? (text : List Char) : Option Decimal :=
  let whole := text.takeWhile Char.isDigit
  let (fraction, rest) :=
    match text.dropWhile Char.isDigit with
    | '.' :: rest => (rest.takeWhile Char.isDigit, rest.dropWhile Char.isDigit)
    | rest => ([], rest)
  if whole.isEmpty ∧ fraction.isEmpty then none
  else
    (readExponent? rest).map fun exponent =>
      ⟨digitsValue (whole ++ fraction), exponent - fraction.length⟩

/-- The signed value of a decimal under a rounding of fractions. Decimals far above every finite
number, or far below half the smallest, are not computed. -/
def ofDecimal (round : Bool → Ratio → Double) (negative : Bool) (x : Decimal) : Double :=
  let top := leadingPower x
  if x.digits = 0 ∨ top < -400 then ofRank negative 0
  else if 400 < top then .infinite negative
  else round negative x.toRatio

/-- An unsigned numeral: a decimal, or a word for infinity or for no number in letters of any
case. -/
def readUnsigned? (round : Bool → Ratio → Double) (negative : Bool) (text : List Char) :
    Option Double :=
  let word := text.map Char.toLower
  if word = "inf".toList ∨ word = "infinity".toList then some (.infinite negative)
  else if word = "nan".toList then some .nan
  else (readDecimal? text).map (ofDecimal round negative)

def readWith? (round : Bool → Ratio → Double) : List Char → Option Double
  | '-' :: rest => readUnsigned? round true rest
  | '+' :: rest => readUnsigned? round false rest
  | text => readUnsigned? round false text

/-- The double nearest to a numeral, if the text is one. -/
def read? (text : String) : Option Double := readWith? ofRatio text.toList

/-- The single-precision number nearest to a numeral, as a double. -/
def readSingle? (text : String) : Option Double := readWith? ofRatioSingle text.toList

end Phrasebook.Double
