import Widgetry.Scalar
import Widgetry.Error
/-!
Colours with four channels, each valid from zero to one.
-/
namespace Widgetry

structure Color (α : Type) where
  r : α
  g : α
  b : α
  a : α
  deriving BEq, DecidableEq

namespace Color

variable {α : Type} [Scalar α]

def rgb (r g b : α) : Color α := ⟨r, g, b, 1⟩

def black : Color α := rgb 0 0 0

def white : Color α := rgb 1 1 1

def transparent : Color α := ⟨0, 0, 0, 0⟩

def withAlpha (c : Color α) (a : α) : Color α := { c with a }

def scaleAlpha (c : Color α) (factor : α) : Color α := c.withAlpha (c.a * factor)

/-- The mix of two colours, from the first at `0` to the second at `1`. -/
def lerp (c d : Color α) (t : α) : Color α :=
  let mix (u v : α) := u + (v - u) * t
  ⟨mix c.r d.r, mix c.g d.g, mix c.b d.b, mix c.a d.a⟩

def isVisible (c : Color α) : Bool := decide (0 < c.a)

/-- A channel in range; NaN is not. -/
def InUnit (u : α) : Prop := 0 ≤ u ∧ u ≤ 1

instance (u : α) : Decidable (InUnit u) := inferInstanceAs (Decidable (_ ∧ _))

def validate (c : Color α) : Except Error Unit :=
  if InUnit c.r ∧ InUnit c.g ∧ InUnit c.b ∧ InUnit c.a then .ok ()
  else .error (.range .colorChannel)

end Color

end Widgetry
