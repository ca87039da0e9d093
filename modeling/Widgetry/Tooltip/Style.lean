import Widgetry.Geometry
import Widgetry.Text
import Widgetry.Validate
/-!
Styles of a tooltip.
-/
namespace Widgetry

/-- A plain tooltip has a body, a rich one a title too. -/
inductive TooltipVariant where
  | plain
  | rich
  deriving DecidableEq, Repr

def TooltipVariant.ofCode (code : UInt32) : Except Error TooltipVariant :=
  match code with
  | 1 => .ok plain
  | 2 => .ok rich
  | _ => .error (.range .tooltipVariantCode)

/-- A maximum of zero is no limit. -/
structure TooltipStyle (α : Type) where
  variant : TooltipVariant
  padding : Edges α
  minWidth : α
  minHeight : α
  maxWidth : α
  maxHeight : α
  cornerRadius : α
  /-- Distance from the anchor. -/
  anchorGap : α
  titleBodySpacing : α
  /-- The text of a plain tooltip. -/
  text : TextStyle α
  title : TextStyle α
  body : TextStyle α
  background : Color α
  deriving BEq, DecidableEq

namespace TooltipStyle

variable {α : Type} [Scalar α]

def plain : TooltipStyle α :=
  let text : TextStyle α :=
    { (TextStyle.default : TextStyle α) with
      sizePx := 12, weight := 400, color := .rgb 0.957 0.937 0.957 }
  {
    variant := .plain
    padding := .symmetric 8 4
    minWidth := 0
    minHeight := 24
    maxWidth := 0
    maxHeight := 0
    cornerRadius := 4
    anchorGap := 4
    titleBodySpacing := 4
    text
    title := text
    body := text
    background := .rgb 0.192 0.188 0.2 }

def rich : TooltipStyle α :=
  let body : TextStyle α :=
    { (TextStyle.default : TextStyle α) with
      sizePx := 14, weight := 400, color := .rgb 0.114 0.106 0.125 }
  {
    variant := .rich
    padding := .symmetric 12 8
    minWidth := 0
    minHeight := 40
    maxWidth := 0
    maxHeight := 0
    cornerRadius := 8
    anchorGap := 4
    titleBodySpacing := 4
    text := body
    title := { body with weight := 500 }
    body
    background := .white }

def default : TooltipStyle α := plain

/-- The text styles the variant draws with. -/
def activeText (s : TooltipStyle α) : List (TextStyle α) :=
  match s.variant with
  | .plain => [s.text]
  | .rich => [s.title, s.body]

def lengths (s : TooltipStyle α) : List (α × String) :=
  [(s.minWidth, "tooltip min width"),
    (s.minHeight, "tooltip min height"),
    (s.maxWidth, "tooltip max width"),
    (s.maxHeight, "tooltip max height"),
    (s.cornerRadius, "tooltip corner radius"),
    (s.anchorGap, "tooltip anchor gap"),
    (s.titleBodySpacing, "tooltip title spacing")]

/-- Only the text styles in use are checked. -/
def validate (s : TooltipStyle α) (requireFamily : Bool) : Except Error Unit := do
  Validate.nonNegative s.lengths
  if 0 < s.maxWidth ∧ s.maxWidth < s.minWidth then throw (.range .tooltipMaxWidth)
  if 0 < s.maxHeight ∧ s.maxHeight < s.minHeight then throw (.range .tooltipMaxHeight)
  s.padding.validate
  s.activeText.forM (·.validate requireFamily)
  s.background.validate

end TooltipStyle

end Widgetry
