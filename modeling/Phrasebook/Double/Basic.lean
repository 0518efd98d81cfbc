/-!
# Double-precision numbers

A double is not a number, an infinity, or a sign and a rank: the place of its magnitude among
the finite magnitudes in increasing order, which is also the bit pattern of the magnitude. Every
rank names a mantissa and an exponent, and every operation here is the exact result in rational
arithmetic followed by one rounding, to the nearest magnitude and to the even one in a tie.
-/

namespace Phrasebook

/-- The number of finite magnitudes of a double; the rank of infinity if it had one. -/
def Double.ranks : Nat := 2047 * Nat.pow 2 52

inductive Double where
  | nan
  | infinite (negative : Bool)
  -- A finite number; zero has rank 0 and both signs.
  | finite (negative : Bool) (rank : Fin Double.ranks)
  deriving DecidableEq

/-- A magnitude `mantissa · 2 ^ exponent`. -/
structure Dyadic where
  mantissa : Nat
  exponent : Int
  deriving DecidableEq, Repr

/-- A non-negative fraction; the denominator is not zero where one is made. -/
structure Ratio where
  num : Nat
  den : Nat
  deriving DecidableEq, Repr

namespace Ratio

def whole (n : Nat) : Ratio := ⟨n, 1⟩

def mul (a b : Ratio) : Ratio := ⟨a.num * b.num, a.den * b.den⟩

def div (a b : Ratio) : Ratio := ⟨a.num * b.den, a.den * b.num⟩

/-- A power of a whole base, with any exponent. -/
def power (base : Nat) (exponent : Int) : Ratio :=
  if 0 ≤ exponent then ⟨base.pow exponent.toNat, 1⟩ else ⟨1, base.pow (-exponent).toNat⟩

/-- The whole number nearest to a fraction, the even one of two equally near. -/
def nearest (a : Ratio) : Nat :=
  let quotient := a.num / a.den
  let twice := 2 * (a.num % a.den)
  if twice < a.den then quotient
  else if a.den < twice then quotient + 1
  else if quotient % 2 = 0 then quotient else quotient + 1

def le (a b : Ratio) : Bool := a.num * b.den ≤ b.num * a.den

def lt (a b : Ratio) : Bool := a.num * b.den < b.num * a.den

end Ratio

namespace Dyadic

def toRatio (x : Dyadic) : Ratio := (Ratio.whole x.mantissa).mul (.power 2 x.exponent)

/-- The magnitude nearest to a fraction among those with a mantissa below `2 ^ digits` and an
exponent of at least `least`, the one with even mantissa of two equally near. A mantissa that is
rounded up to `2 ^ digits` is left as it is. -/
def nearest (digits : Nat) (least : Int) (a : Ratio) : Dyadic :=
  let estimate : Int := (a.num.log2 : Int) - (a.den.log2 : Int) - digits
  let tooSmall := (Ratio.power 2 (estimate + digits)).le a
  let exponent := max least (if tooSmall then estimate + 1 else estimate)
  ⟨(a.div (.power 2 exponent)).nearest, exponent⟩

end Dyadic

namespace Double

/-- The magnitude with a rank: below `2 ^ 52` the rank counts units of the smallest magnitude,
above it each run of `2 ^ 52` ranks has twice the unit of the run before. -/
def dyadicOfRank (rank : Nat) : Dyadic :=
  let run := Nat.pow 2 52
  if rank < run then ⟨rank, -1074⟩ else ⟨run + rank % run, (rank / run : Nat) - 1075⟩

/-- The rank of a magnitude with a mantissa of at most `2 ^ 53`, which lies in the run of its
exponent or at the beginning of the next. -/
def rankOfDyadic (x : Dyadic) : Nat :=
  (x.exponent + 1074).toNat * Nat.pow 2 52 + x.mantissa

/-- The double with a sign and a rank, infinite beyond the last rank. -/
def ofRank (negative : Bool) (rank : Nat) : Double :=
  if bounded : rank < ranks then .finite negative ⟨rank, bounded⟩ else .infinite negative

/-- The double nearest to a signed fraction. -/
def ofRatio (negative : Bool) (a : Ratio) : Double :=
  if a.num = 0 then ofRank negative 0
  else ofRank negative (rankOfDyadic (Dyadic.nearest 53 (-1074) a))

def ofInt (n : Int) : Double := ofRatio (decide (n < 0)) (.whole n.natAbs)

/-- The double that equals the single-precision number nearest to a signed fraction. -/
def ofRatioSingle (negative : Bool) (a : Ratio) : Double :=
  if a.num = 0 then ofRank negative 0
  else
    let single := (Dyadic.nearest 24 (-149) a).toRatio
    if (Ratio.power 2 128).le single then .infinite negative else ofRatio negative single

def isNegative : Double → Bool
  | .nan => false
  | .infinite negative => negative
  | .finite negative _ => negative

def isFinite : Double → Bool
  | .finite _ _ => true
  | _ => false

/-- The magnitude of a finite number as a fraction. -/
def ratioOfRank (rank : Fin ranks) : Ratio := (dyadicOfRank rank.val).toRatio

def neg : Double → Double
  | .nan => .nan
  | .infinite negative => .infinite !negative
  | .finite negative rank => .finite (!negative) rank

def isZero : Double → Bool
  | .finite _ rank => rank.val = 0
  | _ => false

def mul : Double → Double → Double
  | .nan, _ => .nan
  | _, .nan => .nan
  | .infinite s, .infinite t => .infinite (s != t)
  | .infinite s, .finite t rank => if rank.val = 0 then .nan else .infinite (s != t)
  | .finite s rank, .infinite t => if rank.val = 0 then .nan else .infinite (s != t)
  | .finite s a, .finite t b => ofRatio (s != t) ((ratioOfRank a).mul (ratioOfRank b))

def div : Double → Double → Double
  | .nan, _ => .nan
  | _, .nan => .nan
  | .infinite _, .infinite _ => .nan
  | .infinite s, .finite t _ => .infinite (s != t)
  | .finite s _, .infinite t => ofRank (s != t) 0
  | .finite s a, .finite t b =>
    if b.val = 0 then if a.val = 0 then .nan else .infinite (s != t)
    else ofRatio (s != t) ((ratioOfRank a).div (ratioOfRank b))

/-- The rounded power of a number with a whole exponent, by repeated squaring: the square of the
base is rounded at every step, and so is the product of the squares that the exponent's binary
digits select. -/
def powWithin : Nat → Double → Nat → Double → Double
  | 0, _, _, product => product
  | bound + 1, base, exponent, product =>
    let product := if exponent % 2 = 1 then product.mul base else product
    if exponent / 2 = 0 then product
    else powWithin bound (base.mul base) (exponent / 2) product

def pow (base : Double) (exponent : Nat) : Double :=
  powWithin (exponent.log2 + 1) base exponent (ofInt 1)

/-- The magnitude of a number without fraction, if it is finite and has none. -/
def whole? : Double → Option Nat
  | .finite _ rank =>
    let a := ratioOfRank rank
    if a.num % a.den = 0 then some (a.num / a.den) else none
  | _ => none

/-- The whole part of the magnitude of a finite number whose fraction is exactly one half. -/
def halfAbove? : Double → Option Nat
  | .finite _ rank =>
    let a := ratioOfRank rank
    if 2 * (a.num % a.den) = a.den then some (a.num / a.den) else none
  | _ => none

end Double

end Phrasebook
