import Widgetry.Binary.Basic
/-!
The numbers that coordinates, sizes and times are made of. All geometry is written over this
class: it runs on `Binary32` and reads as exact arithmetic on `Rat`.
-/
namespace Widgetry

class Scalar (α : Type) extends Add α, Sub α, Mul α, Div α, LT α, LE α, BEq α, Max α, Min α where
  decLt : DecidableLT α
  decLe : DecidableLE α
  isNaN : α → Bool
  /-- The nearest number to an integer. -/
  ofInt : Int → α
  /-- The nearest number to `digits · 10 ^ (-places)`. -/
  ofPlaces : (digits places : Nat) → α
  /-- Truncation to an index, from zero up. -/
  toIndex : α → Nat

namespace Scalar

variable {α : Type} [Scalar α]

instance (priority := low) : DecidableLT α := decLt
instance (priority := low) : DecidableLE α := decLe

/-- The nearest number to a count. -/
def ofNat (n : Nat) : α := ofInt n

instance (priority := low) (n : Nat) : OfNat α n := ⟨ofInt n⟩

instance (priority := low) : OfScientific α where
  ofScientific m sign e := if sign then ofPlaces m e else ofPlaces (m * 10 ^ e) 0

end Scalar

/-- Indices have 64 bits. -/
def indexLimit : Nat := 0xFFFFFFFFFFFFFFFF

instance : Scalar Binary32 where
  decLt := inferInstance
  decLe := inferInstance
  isNaN := Binary.isNaN
  ofInt := Binary.ofInt
  ofPlaces m e := Binary.ofDecimal false m (-e)
  toIndex := Binary.truncate indexLimit

instance : Scalar Rat where
  toMax := maxOfLe
  toMin := minOfLe
  decLt := inferInstance
  decLe := inferInstance
  isNaN _ := false
  ofInt i := i
  ofPlaces m e := OfScientific.ofScientific m true e
  toIndex q := q.floor.toNat

end Widgetry
