import Phrasebook.Double.Basic

/-!
# Shortest decimals

The decimal with the fewest digits among those that round to a given double, and of these the
nearest to it. A decimal rounds to a double when it lies between the midpoints to the two
neighbouring magnitudes; the midpoints themselves count when the mantissa is even. Of the
decimals with a given number of digits only the two beside the value can be nearest, so one of
them lies between the midpoints if any does. Where both are equally near, the caller's rule for
ties decides.
-/

namespace Phrasebook

/-- A magnitude `digits · 10 ^ exponent`. -/
structure Decimal where
  digits : Nat
  exponent : Int
  deriving DecidableEq, Repr

namespace Decimal

def toRatio (x : Decimal) : Ratio := (Ratio.whole x.digits).mul (.power 10 x.exponent)

/-- Move the factors ten of the digits into the exponent. -/
def trimmedWithin : Nat → Decimal → Decimal
  | 0, x => x
  | bound + 1, x =>
    if x.digits % 10 = 0 then trimmedWithin bound ⟨x.digits / 10, x.exponent + 1⟩ else x

/-- The same magnitude with no zero at the end of its digits; zero is left as it is. -/
def trimmed (x : Decimal) : Decimal :=
  if x.digits = 0 then x else trimmedWithin x.digits.log2 x

end Decimal

namespace Double

/-- The magnitudes that round to the one with this rank: the midpoints to its neighbours, and
whether they belong to it. -/
structure Basin where
  low : Ratio
  high : Ratio
  -- Whether the midpoints round to this magnitude.
  closed : Bool

namespace Basin

/-- The basin of a rank. Below the first magnitude of a run the neighbour is only half as far
away as above it, except at the bottom, where the two lowest runs have the same unit. -/
def ofRank (rank : Nat) : Basin :=
  let x := dyadicOfRank rank
  let quarter := (Ratio.power 2 (x.exponent - 2))
  let firstOfRun := x.mantissa = Nat.pow 2 52 && x.exponent != -1074
  { low := (Ratio.whole (4 * x.mantissa - if firstOfRun then 1 else 2)).mul quarter
    high := (Ratio.whole (4 * x.mantissa + 2)).mul quarter
    closed := x.mantissa % 2 = 0 }

def holds (basin : Basin) (a : Ratio) : Bool :=
  if basin.closed then basin.low.le a && a.le basin.high
  else basin.low.lt a && a.lt basin.high

end Basin

/-- Which of two neighbouring decimals is taken for a value exactly between them. -/
inductive Tie where
  | up
  | even
  deriving DecidableEq, Repr

/-- Whether a value exactly between `below` and `below + 1` units is rounded down. -/
def Tie.isDown (tie : Tie) (below : Nat) : Bool :=
  match tie with
  | .up => false
  | .even => below % 2 = 0

/-- Of the two multiples of `10 ^ exponent` beside a fraction, the one that lies in the basin;
where both do, the nearer one. -/
def onGrid? (tie : Tie) (basin : Basin) (a : Ratio) (exponent : Int) : Option Decimal :=
  let steps := a.div (.power 10 exponent)
  let below := steps.num / steps.den
  let twice := 2 * (steps.num % steps.den)
  let lower : Decimal := ⟨below, exponent⟩
  let upper : Decimal := ⟨below + 1, exponent⟩
  match basin.holds lower.toRatio, basin.holds upper.toRatio with
  | true, true =>
    if twice < steps.den ∨ twice = steps.den ∧ tie.isDown below then some lower else some upper
  | true, false => some lower
  | false, true => some upper
  | false, false => none

/-- The first hit among the grids with `count`, `count + 1`, … digits for a fraction below
`10 ^ top`. With seventeen digits some decimal always rounds to the value. -/
def shortestWithin (tie : Tie) (basin : Basin) (a : Ratio) (top : Int) : Nat → Nat → Decimal
  | 0, count => ⟨(a.div (.power 10 (top - count))).nearest, top - count⟩
  | bound + 1, count =>
    match onGrid? tie basin a (top - count) with
    | some decimal => decimal
    | none => shortestWithin tie basin a top bound (count + 1)

/-- The power of ten above a fraction of at least `10 ^ -places`: the number of digits before the
point of the fraction times `10 ^ places`, less the places. -/
def decimalTopWithin (places : Nat) (a : Ratio) : Int :=
  ((Nat.toDigits 10 (a.num * Nat.pow 10 places / a.den)).length : Int) - places

/-- The power of ten above a magnitude; none is below `10 ^ -400` but zero. -/
def decimalTop (a : Ratio) : Int := decimalTopWithin 400 a

/-- The decimal with the fewest digits that rounds to the magnitude with this rank, without
zeros at the end of its digits. -/
def shortest (tie : Tie) (rank : Fin ranks) : Decimal :=
  if rank.val = 0 then ⟨0, 0⟩
  else
    let a := ratioOfRank rank
    (shortestWithin tie (.ofRank rank.val) a (decimalTop a) 17 1).trimmed

end Double

end Phrasebook
