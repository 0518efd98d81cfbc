import Phrasebook.Double.Fixed
import Phrasebook.Json.Basic

/-!
# Numbers in groups of three digits

A number is written with a fixed number of places, its digits before the point in groups of
three. The separators and the number of places are a style, which settings describe; what they
leave out, or give in another type, is as in the standard style.
-/

namespace Phrasebook

structure NumberStyle where
  thousands : String
  fraction : String
  places : Nat
  deriving DecidableEq, Repr

namespace NumberStyle

/-- Commas between groups, a point, and two places. -/
def standard : NumberStyle := ⟨",", ".", 2⟩

/-- The greatest number of places that settings can ask for. -/
def maxPlaces : Nat := 100

def ofSettings (settings : Settings) : NumberStyle where
  thousands := (settings.stringMember? "thousandsSeparator").getD standard.thousands
  fraction := (settings.stringMember? "fractionSeparator").getD standard.fraction
  places :=
    match (settings.member? "fractionCount").bind Json.natural? with
    | some count => min count maxPlaces
    | none => standard.places

end NumberStyle

/-- Digits with a separator before every group of three, counted from the end, but not at the
beginning. -/
def groupDigits (separator : List Char) : List Char → List Char
  | [] => []
  | [digit] => [digit]
  | digit :: rest =>
    if rest.length % 3 = 0 then digit :: (separator ++ groupDigits separator rest)
    else digit :: groupDigits separator rest

namespace NumberStyle

def format (style : NumberStyle) : Double → String
  | .nan => "NaN"
  | .infinite negative => String.ofList (Double.signText negative) ++ "Infinity"
  | .finite negative rank =>
    let text := Double.fixedText negative rank style.places
    let whole := Double.signText text.negative ++ groupDigits style.thousands.toList text.whole
    if style.places = 0 then String.ofList whole
    else String.ofList (whole ++ style.fraction.toList ++ text.fraction)

end NumberStyle

end Phrasebook
