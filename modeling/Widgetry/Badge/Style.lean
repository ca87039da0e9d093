import Widgetry.Geometry
import Widgetry.Text
/-!
Styles of a badge, and its place at a corner of what it is attached to.
-/
namespace Widgetry

structure BadgeStyle (α : Type) where
  background : Color α
  textColor : Color α
  text : TextStyle α
  dotDiameter : α
  minWidth : α
  height : α
  paddingX : α
  deriving BEq, DecidableEq

inductive BadgeCorner where
  | topLeft
  | topRight
  | bottomRight
  | bottomLeft
  deriving DecidableEq, Repr

def BadgeCorner.ofCode (code : UInt32) : Except Error BadgeCorner :=
  match code with
  | 0 => .ok topLeft
  | 1 => .ok topRight
  | 2 => .ok bottomRight
  | 3 => .ok bottomLeft
  | _ => .error (.range .badgeCornerCode)

structure BadgePlacement (α : Type) where
  corner : BadgeCorner
  offsetX : α
  offsetY : α

variable {α : Type} [Scalar α]

namespace BadgeStyle

def default : BadgeStyle α where
  background := .rgb 0.698 0.149 0.118
  textColor := .white
  text := { TextStyle.default with sizePx := 11, weight := 500 }
  dotDiameter := 6
  minWidth := 16
  height := 16
  paddingX := 4

def validate (s : BadgeStyle α) : Except Error Unit := do
  if s.dotDiameter ≤ 0 ∨ s.minWidth ≤ 0 ∨ s.height ≤ 0 then
    throw (.invalidArgument .badgeDimension)
  if s.paddingX < 0 then throw (.invalidArgument .badgePadding)
  s.text.validate false
  s.background.validate
  s.textColor.validate

end BadgeStyle

namespace BadgePlacement

/-- On an icon. -/
def icon : BadgePlacement α := ⟨.topRight, 0, 0⟩

/-- On an entry of a navigation bar. -/
def navigation : BadgePlacement α := icon

/-- A badge of a size, centred on the corner of its anchor and moved by the offset. -/
def bounds (p : BadgePlacement α) (anchor : Rect α) (size : Size α) : Except Error (Rect α) := do
  anchor.validate
  if size.width < 0 ∨ size.height < 0 then throw (.range .badgeSize)
  let (x, y) := match p.corner with
    | .topLeft => (anchor.x, anchor.y)
    | .topRight => (anchor.right, anchor.y)
    | .bottomRight => (anchor.right, anchor.bottom)
    | .bottomLeft => (anchor.x, anchor.bottom)
  return ⟨x + p.offsetX - size.width * 0.5, y + p.offsetY - size.height * 0.5, size.width,
    size.height⟩

end BadgePlacement

end Widgetry
