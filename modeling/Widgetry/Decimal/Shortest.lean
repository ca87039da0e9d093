import Widgetry.Binary.Basic
/-!
The decimal of a finite number that has the fewest digits among those that round to the number,
and is nearest to it among these.
-/
namespace Widgetry

/-- `digits · 10 ^ exponent` -/
structure Decimal where
  digits : Nat
  exponent : Int
  deriving DecidableEq, Repr

namespace Decimal

/-- A closed or open interval around `value`, all four ends over the denominator `den`. -/
structure Interval where
  low : Nat
  value : Nat
  high : Nat
  den : Nat
  closed : Bool

/-- The reals that round to `mag` steps, counted in quarter steps. A power of two has its lower
neighbour at half the distance of the upper one. -/
def Interval.around (f : Format) (mag : Nat) : Interval :=
  let step := 2 ^ f.grid mag
  let narrow := f.grid mag ≠ 0 ∧ mag = step * 2 ^ (f.precision - 1)
  { low := 4 * mag - if narrow then step else 2 * step
    value := 4 * mag
    high := 4 * mag + 2 * step
    den := 4 * 2 ^ f.scale
    closed := mag / step % 2 == 0 }

def Interval.holds (i : Interval) (num den : Nat) : Bool :=
  if i.closed then i.low * den ≤ num * i.den && num * i.den ≤ i.high * den
  else i.low * den < num * i.den && num * i.den < i.high * den

/-- The neighbour of the value on the grid `10 ^ exponent` that lies in the interval; of two the
nearer, and the upper one at equal distance. -/
def Interval.onGrid? (i : Interval) (exponent : Int) : Option Decimal :=
  let up := 10 ^ (-exponent).toNat
  let down := 10 ^ exponent.toNat
  let below := i.value * up / (i.den * down)
  let above := below + 1
  match i.holds (below * down) up, i.holds (above * down) up with
  | false, false => none
  | true, false => some ⟨below, exponent⟩
  | false, true => some ⟨above, exponent⟩
  | true, true =>
    if 2 * (i.value * up) < (below + above) * (i.den * down) then some ⟨below, exponent⟩
    else some ⟨above, exponent⟩

/-- Tries ever finer grids, from `exponent` down. -/
def Interval.search (i : Interval) : Nat → Int → Decimal
  | 0, _ => ⟨0, 0⟩
  | fuel + 1, exponent => (i.onGrid? exponent).getD (i.search fuel (exponent - 1))

def digitCount (n : Nat) : Nat := (Nat.toDigits 10 n).length

/-- At exponent `-scale` the value lies on the grid, so the search ends before its fuel does. -/
def shortest (f : Format) (mag : Nat) : Decimal :=
  if mag = 0 then ⟨0, 0⟩
  else
    let start := digitCount (mag / 2 ^ f.scale)
    (Interval.around f mag).search (start + f.scale + 1) start

end Decimal

end Widgetry
