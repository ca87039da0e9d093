import Widgetry.Badge.Style
import Widgetry.Segmented.Style
import Widgetry.Tabs.Style
import Widgetry.Tooltip.Style
/-!
A style sheet: the styles of all widgets, and a font family for those that name none.
-/
namespace Widgetry

structure StyleSheet (α : Type) where
  fontFamily : Option String
  tabs : TabStyle α
  segmented : SegmentStyle α
  badge : BadgeStyle α
  tooltip : TooltipStyle α
  text : TextStyle α
  deriving BEq, DecidableEq

/-- Names a family unless the style has one. -/
def TextStyle.orFamily {α : Type} (s : TextStyle α) (family : Option String) : TextStyle α :=
  { s with family := s.family <|> family }

namespace StyleSheet

variable {α : Type}

/-- Names a family for every text style that has none. -/
def withFamily (s : StyleSheet α) (family : Option String) : StyleSheet α :=
  { s with
    tabs := { s.tabs with text := s.tabs.text.orFamily family }
    segmented := { s.segmented with text := s.segmented.text.orFamily family }
    badge := { s.badge with text := s.badge.text.orFamily family }
    tooltip :=
      { s.tooltip with
        text := s.tooltip.text.orFamily family
        title := s.tooltip.title.orFamily family
        body := s.tooltip.body.orFamily family }
    text := s.text.orFamily family }

/-- Every text style has a family if the sheet names one. -/
def filled (s : StyleSheet α) : StyleSheet α := s.withFamily s.fontFamily

variable [Scalar α]

def default : StyleSheet α := ⟨none, .default, .default, .default, .default, .default⟩

/-- A sheet may leave families open; the widgets ask for them. -/
def validate (s : StyleSheet α) : Except Error Unit := do
  s.tabs.validate false
  s.segmented.validate false
  s.badge.validate
  s.tooltip.validate false
  s.text.validate false

/-- Numeric equality: a sheet that holds a NaN does not agree with itself. -/
def agrees (s t : StyleSheet α) : Bool := s == t

end StyleSheet

end Widgetry
