import Phrasebook.Double.Text

/-!
# Doubles with a fixed number of places

A finite double is rounded to a whole number of units `10 ^ -places` and written with exactly
that many digits behind the point. The exact value goes to the nearest unit. A value that lies
exactly between two units goes to the one farther from zero, as long as it is small enough that
its product with the scale still shows the half.
-/

namespace Phrasebook.Double

/-- The number of units `10 ^ -places` nearest to a magnitude, the even one in a tie. -/
def nearestUnits (rank : Fin ranks) (places : Nat) : Nat :=
  ((ratioOfRank rank).mul (.power 10 places)).nearest

/-- Whether a magnitude lies exactly between two multiples of `10 ^ -places`. -/
def isHalfway (rank : Fin ranks) (places : Nat) : Bool :=
  let units := (ratioOfRank rank).mul (.power 10 places)
  2 * (units.num % units.den) = units.den

/-- A magnitude moved up to the next unit if it lies halfway and its rounded product with the
scale is some whole number and a half. -/
def raiseHalf (rank : Fin ranks) (places : Nat) : Fin ranks :=
  let scale := (ofInt 10).pow places
  match ((finite false rank).mul scale).halfAbove?, isHalfway rank places with
  | some below, true =>
    match (ofInt (below + 1)).div scale with
    | .finite _ raised => raised
    | _ => rank
  | _, _ => rank

/-- The number of units `10 ^ -places` that a magnitude is rounded to. -/
def units (rank : Fin ranks) (places : Nat) : Nat := nearestUnits (raiseHalf rank places) places

/-- A number of units written out: the digits before the point and the `places` digits behind
it. -/
structure FixedText where
  negative : Bool
  -- The digits before the point, at least one.
  whole : List Char
  fraction : List Char
  deriving DecidableEq, Repr

/-- The digits of a number below `10 ^ places`, filled up with zeros in front. -/
def paddedDigits (places n : Nat) : List Char :=
  if places = 0 then []
  else
    let digits := Nat.toDigits 10 n
    zeros (places - digits.length) ++ digits

/-- A finite number with a fixed number of places; a minus sign marks the numbers below zero,
also those that are rounded to zero. -/
def fixedText (negative : Bool) (rank : Fin ranks) (places : Nat) : FixedText :=
  let count := units rank places
  let one := Nat.pow 10 places
  { negative := negative && rank.val != 0
    whole := Nat.toDigits 10 (count / one)
    fraction := paddedDigits places (count % one) }

end Phrasebook.Double
