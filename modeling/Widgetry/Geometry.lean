import Widgetry.Scalar
import Widgetry.Error
/-!
Rectangles, sizes, insets and the constraints a widget is measured under.
-/
namespace Widgetry

/-- A rectangle in screen coordinates, from its top left corner. -/
structure Rect (α : Type) where
  x : α
  y : α
  width : α
  height : α
  deriving BEq, DecidableEq

structure Size (α : Type) where
  width : α
  height : α
  deriving BEq, DecidableEq

/-- Insets per side. -/
structure Edges (α : Type) where
  left : α
  top : α
  right : α
  bottom : α
  deriving BEq, DecidableEq

variable {α : Type} [Scalar α]

namespace Edges

def all (value : α) : Edges α := ⟨value, value, value, value⟩

def zero : Edges α := all 0

def symmetric (horizontal vertical : α) : Edges α := ⟨horizontal, vertical, horizontal, vertical⟩

def horizontal (e : Edges α) : α := e.left + e.right

def vertical (e : Edges α) : α := e.top + e.bottom

def validate (e : Edges α) : Except Error Unit :=
  if e.left < 0 ∨ e.top < 0 ∨ e.right < 0 ∨ e.bottom < 0 then .error (.range .negativeInsets)
  else .ok ()

end Edges

namespace Rect

def zero : Rect α := ⟨0, 0, 0, 0⟩

def right (r : Rect α) : α := r.x + r.width

def bottom (r : Rect α) : α := r.y + r.height

/-- The left and top edges belong to the rectangle, the right and bottom ones do not. -/
def contains (r : Rect α) (x y : α) : Bool :=
  decide (r.x ≤ x) && decide (x < r.right) && decide (r.y ≤ y) && decide (y < r.bottom)

/-- No positive extent, as before the first layout. -/
def isDegenerate (r : Rect α) : Bool := decide (r.width ≤ 0) || decide (r.height ≤ 0)

def inset (r : Rect α) (e : Edges α) : Except Error (Rect α) :=
  let width := r.width - e.horizontal
  let height := r.height - e.vertical
  if width < 0 ∨ height < 0 then .error (.range .insetsExceedExtent)
  else .ok ⟨r.x + e.left, r.y + e.top, width, height⟩

def shrink (r : Rect α) (amount : α) : Except Error (Rect α) := r.inset (.all amount)

def validate (r : Rect α) : Except Error Unit :=
  if r.width < 0 ∨ r.height < 0 then .error (.range .negativeExtent) else .ok ()

end Rect

namespace Size

def zero : Size α := ⟨0, 0⟩

end Size

/-- The constraint on one axis. -/
inductive MeasureSpec (α : Type) where
  | unspecified
  | exactly (size : α)
  | atMost (size : α)

namespace MeasureSpec

def validate (spec : MeasureSpec α) : Except Error Unit :=
  match spec with
  | unspecified => .ok ()
  | exactly size | atMost size => if size < 0 then .error (.range .measureSize) else .ok ()

def resolve (spec : MeasureSpec α) (content : α) : α :=
  match spec with
  | unspecified => content
  | exactly size => size
  | atMost size => min content size

end MeasureSpec

end Widgetry
