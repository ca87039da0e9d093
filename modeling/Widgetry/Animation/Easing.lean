import Widgetry.Scalar
import Widgetry.Error
/-!
Easing curves on normalized progress.
-/
namespace Widgetry

/-- `easeIn` accelerates, `easeOut` decelerates. -/
inductive Easing where
  | linear
  | easeIn
  | easeOut
  | easeInOut
  deriving DecidableEq, Repr

namespace Easing

variable {α : Type} [Scalar α]

/-- Into `0 ≤ t ≤ 1`; NaN stays. -/
def unit (t : α) : α := if t < 0 then 0 else if 1 < t then 1 else t

def curve (easing : Easing) (t : α) : α :=
  match easing with
  | linear => t
  | easeIn => t * t
  | easeOut =>
    let inv := 1 - t
    1 - inv * inv
  | easeInOut =>
    if t < 0.5 then 2 * t * t
    else
      let inv := Scalar.ofInt (-2) * t + 2
      1 - inv * inv * 0.5

def apply (easing : Easing) (t : α) : α := easing.curve (unit t)

def ofCode (code : UInt32) : Except Error Easing :=
  match code with
  | 0 => .ok linear
  | 1 => .ok easeIn
  | 2 => .ok easeOut
  | 3 => .ok easeInOut
  | _ => .error (.range .easingCode)

end Easing

end Widgetry
