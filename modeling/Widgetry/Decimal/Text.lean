import Widgetry.Decimal.Shortest
/-!
Decimal text: the shortest one that reads back, and one with a fixed number of places.
-/
namespace Widgetry.Decimal

/-- How a number with the fewest digits is written. -/
structure Spelling where
  /-- Text of NaN. -/
  nan : String
  /-- Leading exponents from here on are written positionally; `none` sets no limit. -/
  least : Option Int
  /-- Leading exponents up to here are written positionally; `none` sets no limit. -/
  most : Option Int

def zeros (n : Nat) : String := String.ofList (List.replicate n '0')

/-- Digits before and after the point. -/
def split (d : Decimal) : String × String :=
  let text := toString d.digits
  if 0 ≤ d.exponent then (text ++ zeros d.exponent.toNat, "")
  else
    let places := (-d.exponent).toNat
    let padded := zeros (places + 1 - text.length) ++ text
    let cs := padded.toList
    (String.ofList (cs.take (cs.length - places)), String.ofList (cs.drop (cs.length - places)))

/-- Power of ten of the first digit. -/
def leading (d : Decimal) : Int := d.exponent + digitCount d.digits - 1

/-- Positional text keeps a digit after the point. -/
def positional (d : Decimal) : String :=
  let (whole, frac) := d.split
  whole ++ "." ++ if frac = "" then "0" else frac

def exponential (d : Decimal) : String :=
  let (whole, frac) := (⟨d.digits, 1 - digitCount d.digits⟩ : Decimal).split
  whole ++ (if frac = "" then "" else "." ++ frac) ++ "e" ++ toString d.leading

namespace Spelling

def isPositional (s : Spelling) (d : Decimal) : Bool :=
  d.digits = 0 || (s.least.all (· ≤ d.leading) && s.most.all (d.leading ≤ ·))

def write (s : Spelling) {f : Format} : Binary f → String
  | .nan => s.nan
  | .infinite neg => if neg then "-inf" else "inf"
  | .finite neg mag _ =>
    let d := shortest f mag
    (if neg then "-" else "") ++ if s.isPositional d then d.positional else d.exponential

end Spelling

/-- `places` digits after the point, rounded to nearest, a tie going to the even digit. -/
def fixed (places : Nat) {f : Format} : Binary f → String
  | .nan => "NaN"
  | .infinite neg => if neg then "-inf" else "inf"
  | .finite neg mag _ =>
    let (whole, frac) := (⟨roundDiv (mag * 10 ^ places) (2 ^ f.scale), -places⟩ : Decimal).split
    (if neg then "-" else "") ++ whole ++ if places = 0 then "" else "." ++ frac

/-- Pads with blanks on the left. -/
def rightAligned (width : Nat) (text : String) : String :=
  String.ofList (List.replicate (width - text.length) ' ') ++ text

end Widgetry.Decimal
