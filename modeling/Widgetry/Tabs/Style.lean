import Widgetry.Animation.Easing
import Widgetry.Geometry
import Widgetry.Text
import Widgetry.Validate
/-!
Styles of a tab row.
-/
namespace Widgetry

/-- Fixed tabs share the width evenly; scrollable ones take what their labels need. -/
inductive TabMode where
  | fixed
  | scrollable
  deriving DecidableEq, Repr

def TabMode.ofCode (code : UInt32) : Except Error TabMode :=
  match code with
  | 1 => .ok fixed
  | 2 => .ok scrollable
  | _ => .error (.range .tabModeCode)

structure TabStyle (α : Type) where
  mode : TabMode
  /-- Insets around the whole row. -/
  padding : Edges α
  spacing : α
  minWidth : α
  minHeight : α
  /-- Insets around a label. -/
  paddingX : α
  paddingY : α
  indicatorThickness : α
  indicatorCorner : α
  indicatorDuration : α
  indicatorEasing : Easing
  text : TextStyle α
  selectedText : Color α
  indicator : Color α
  background : Color α
  disabledText : Color α
  disabledIndicator : Color α
  deriving BEq, DecidableEq

namespace TabStyle

variable {α : Type} [Scalar α]

def disabledAlpha : α := 0.38

def default : TabStyle α where
  mode := .fixed
  padding := .zero
  spacing := 0
  minWidth := 90
  minHeight := 48
  paddingX := 16
  paddingY := 12
  indicatorThickness := 2
  indicatorCorner := 0
  indicatorDuration := 0.2
  indicatorEasing := .easeOut
  text := .default
  selectedText := .black
  indicator := .black
  background := .transparent
  disabledText := (TextStyle.default : TextStyle α).color.scaleAlpha disabledAlpha
  disabledIndicator := (Color.black : Color α).scaleAlpha disabledAlpha

def scrollable : TabStyle α := { default with mode := .scrollable }

def lengths (s : TabStyle α) : List (α × String) :=
  [(s.spacing, "tab spacing is negative"),
    (s.minWidth, "tab min width is negative"),
    (s.minHeight, "tab min height is negative"),
    (s.paddingX, "tab horizontal padding is negative"),
    (s.paddingY, "tab vertical padding is negative"),
    (s.indicatorThickness, "indicator thickness is negative"),
    (s.indicatorCorner, "indicator corner is negative"),
    (s.indicatorDuration, "indicator duration is negative")]

def colors (s : TabStyle α) : List (Color α) :=
  [s.selectedText, s.indicator, s.background, s.disabledText, s.disabledIndicator]

def validate (s : TabStyle α) (requireFamily : Bool) : Except Error Unit := do
  Validate.nonNegative s.lengths
  s.padding.validate
  s.text.validate requireFamily
  Validate.colors s.colors

end TabStyle

end Widgetry
