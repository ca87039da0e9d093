import Widgetry.Binary.Format
/-!
Floating point numbers of a format: one NaN, signed infinities and signed finite magnitudes.
Every operation is exact on integers and rounded once.
-/
namespace Widgetry

/-- A finite magnitude counts steps of `2 ^ -scale`; zero has both signs. -/
inductive Binary (f : Format) where
  | nan
  | infinite (neg : Bool)
  | finite (neg : Bool) (mag : Nat) (fits : f.Fits mag)
  deriving DecidableEq

abbrev Binary32 := Binary .binary32

abbrev Binary64 := Binary .binary64

namespace Binary

variable {f : Format}

def zero (neg : Bool) : Binary f := .finite neg 0 Format.fits_zero

/-- `num / den` steps, rounded; beyond the range it is infinite. -/
def ofSteps (neg : Bool) (num den : Nat) : Binary f :=
  let mag := f.round num den
  if h : mag < 2 ^ f.top then .finite neg mag ⟨h, Format.exact_round num den⟩ else .infinite neg

/-- The quotient `num / den`, rounded. -/
def ofRatio (neg : Bool) (num den : Nat) : Binary f := ofSteps neg (num * 2 ^ f.scale) den

def ofNat (n : Nat) : Binary f := ofRatio false n 1

def ofInt (i : Int) : Binary f := ofRatio (decide (i < 0)) i.natAbs 1

/-- `digits · 10 ^ exponent`, rounded. -/
def ofDecimal (neg : Bool) (digits : Nat) (exponent : Int) : Binary f :=
  ofRatio neg (digits * 10 ^ exponent.toNat) (10 ^ (-exponent).toNat)

/-- The same number in another format, rounded. -/
def convert {g : Format} : Binary f → Binary g
  | nan => nan
  | infinite s => infinite s
  | finite s m _ => ofRatio s m (2 ^ f.scale)

def isNaN : Binary f → Bool
  | nan => true
  | _ => false

/-- The sign, which zeros and infinities carry too. -/
def isNegative : Binary f → Bool
  | nan => false
  | infinite s => s
  | finite s _ _ => s

/-- A signed number of steps. -/
def signed (neg : Bool) (mag : Nat) : Int := if neg then -mag else mag

def neg : Binary f → Binary f
  | nan => nan
  | infinite s => infinite !s
  | finite s m h => finite (!s) m h

/-- A sum that is exactly zero is negative only if both terms are. -/
def add : Binary f → Binary f → Binary f
  | nan, _ | _, nan => nan
  | infinite s, infinite t => if s = t then infinite s else nan
  | infinite s, finite _ _ _ => infinite s
  | finite _ _ _, infinite t => infinite t
  | finite s a _, finite t b _ =>
    let sum := signed s a + signed t b
    if sum = 0 then zero (s && t) else ofSteps (decide (sum < 0)) sum.natAbs 1

def sub (x y : Binary f) : Binary f := x.add y.neg

def mul : Binary f → Binary f → Binary f
  | nan, _ | _, nan => nan
  | infinite s, infinite t => infinite (s ^^ t)
  | infinite s, finite t b _ => if b = 0 then nan else infinite (s ^^ t)
  | finite s a _, infinite t => if a = 0 then nan else infinite (s ^^ t)
  | finite s a _, finite t b _ => ofSteps (s ^^ t) (a * b) (2 ^ f.scale)

def div : Binary f → Binary f → Binary f
  | nan, _ | _, nan => nan
  | infinite _, infinite _ => nan
  | infinite s, finite t _ _ => infinite (s ^^ t)
  | finite s _ _, infinite t => zero (s ^^ t)
  | finite s a _, finite t b _ =>
    if b = 0 then if a = 0 then nan else infinite (s ^^ t)
    else ofSteps (s ^^ t) (a * 2 ^ f.scale) b

/-- Strictly below; false when either is NaN. -/
def lt : Binary f → Binary f → Bool
  | nan, _ | _, nan => false
  | infinite s, infinite t => s && !t
  | infinite s, finite _ _ _ => s
  | finite _ _ _, infinite t => !t
  | finite s a _, finite t b _ => decide (signed s a < signed t b)

/-- Numerically equal: zeros agree whatever their signs, and NaN equals nothing. -/
def eq : Binary f → Binary f → Bool
  | nan, _ | _, nan => false
  | infinite s, infinite t => s == t
  | infinite _, finite _ _ _ | finite _ _ _, infinite _ => false
  | finite s a _, finite t b _ => decide (signed s a = signed t b)

def le (x y : Binary f) : Bool := x.lt y || x.eq y

/-- The larger operand; of two equal ones the first, and the other one beside NaN. -/
def max (x y : Binary f) : Binary f :=
  if x.isNaN then y else if x.lt y then y else x

/-- The smaller operand; of two equal ones the first, and the other one beside NaN. -/
def min (x y : Binary f) : Binary f :=
  if x.isNaN then y else if y.lt x then y else x

/-- Truncation into `0, …, limit`; NaN gives zero. -/
def truncate (limit : Nat) : Binary f → Nat
  | nan => 0
  | infinite s => if s then 0 else limit
  | finite s m _ => if s then 0 else Nat.min (m / 2 ^ f.scale) limit

instance : Add (Binary f) := ⟨add⟩
instance : Sub (Binary f) := ⟨sub⟩
instance : Mul (Binary f) := ⟨mul⟩
instance : Div (Binary f) := ⟨div⟩
instance : Neg (Binary f) := ⟨neg⟩
instance : BEq (Binary f) := ⟨eq⟩
instance : LT (Binary f) := ⟨fun x y => x.lt y⟩
instance : LE (Binary f) := ⟨fun x y => x.le y⟩
instance : Max (Binary f) := ⟨max⟩
instance : Min (Binary f) := ⟨min⟩
instance : DecidableLT (Binary f) := fun x y => inferInstanceAs (Decidable (x.lt y = true))
instance : DecidableLE (Binary f) := fun x y => inferInstanceAs (Decidable (x.le y = true))

theorem ofSteps_exact {mag : Nat} (h : f.Fits mag) (neg : Bool) (den : Nat) (hd : 0 < den) :
    ofSteps (f := f) neg (mag * den) den = .finite neg mag h := by
  simp [ofSteps, Format.round_exact h.2 den hd, h.1]

/-- A number that both formats hold survives the way there and back. -/
theorem convert_ofSteps {g : Format} (neg : Bool) (mag : Nat) (h : f.Fits mag) {n : Nat}
    (hn : g.Fits n) (hs : n * 2 ^ f.scale = mag * 2 ^ g.scale) :
    (convert (convert (.finite neg mag h : Binary f) : Binary g) : Binary f) =
      .finite neg mag h := by
  have h1 : (convert (.finite neg mag h : Binary f) : Binary g) = .finite neg n hn := by
    simp only [convert, ofRatio, ← hs]
    exact ofSteps_exact hn neg _ (Nat.two_pow_pos _)
  rw [h1]
  simp only [convert, ofRatio, hs]
  exact ofSteps_exact h neg _ (Nat.two_pow_pos _)

end Binary

end Widgetry
