import Widgetry.Color
/-!
Fonts and text as values: the style a font is made for, the handle it is known by, the extent of
a measured line.
-/
namespace Widgetry

/-- A font and the colour of its text. Widgets that create fonts require a family. -/
structure TextStyle (α : Type) where
  family : Option String
  sizePx : Int
  weight : Int
  italic : Bool
  color : Color α
  deriving BEq, DecidableEq

/-- The extent of a line; the baseline is measured from its top. -/
structure TextMetrics (α : Type) where
  width : α
  height : α
  baseline : α
  deriving BEq, DecidableEq

structure FontHandle where
  id : UInt32
  generation : UInt32
  deriving DecidableEq, Inhabited

variable {α : Type} [Scalar α]

namespace TextStyle

def default : TextStyle α := ⟨none, 14, 400, false, .black⟩

def withFamily (family : String) : TextStyle α := { default with family := some family }

def validate (s : TextStyle α) (requireFamily : Bool) : Except Error Unit :=
  if requireFamily ∧ s.family = none then .error (.invalidArgument .familyMissing)
  else if s.sizePx ≤ 0 then .error (.range .fontSize)
  else if s.weight < 100 ∨ 900 < s.weight then .error (.range .fontWeight)
  else s.color.validate

end TextStyle

namespace TextMetrics

def zero : TextMetrics α := ⟨0, 0, 0⟩

end TextMetrics

end Widgetry
