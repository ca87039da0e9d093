/-!
Input events. Positions and deltas are whole window pixels.
-/
namespace Widgetry

inductive Key where
  | escape
  | enter
  | tab
  | space
  | left
  | right
  | home
  | end_
  deriving DecidableEq, Repr

structure Point where
  x : Int
  y : Int
  deriving DecidableEq, Repr

inductive InputEvent where
  | pointerDown (point : Point)
  | pointerUp (point : Point)
  | pointerMove (point : Point)
  | scroll (point : Point) (dx dy : Int)
  | keyDown (key : Key)
  | keyUp (key : Key)
  deriving DecidableEq, Repr

end Widgetry
