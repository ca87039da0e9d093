import Widgetry.Badge.Style
import Widgetry.Flags
import Widgetry.Input
import Widgetry.RowGeometry
/-!
A badge: a dot, or a pill with a short label. It holds a font from its first label on.
-/
namespace Widgetry

structure Badge (α : Type) where
  style : BadgeStyle α
  label : Option String
  font : OwnedFont
  /-- Metrics of an empty line in the held font. -/
  line : TextMetrics α
  bounds : Rect α
  flags : WidgetFlags
  deriving DecidableEq

namespace Badge

variable {α σ : Type} [Scalar α]

def onFont (act : Step OwnedFont σ Unit) : Step (Badge α) σ Unit :=
  Step.zoom font (fun font badge => { badge with font }) act

def setFlags (flags : WidgetFlags) : Step (Badge α) σ Unit :=
  Step.update fun badge => { badge with flags }

def layout (bounds : Rect α) : Step (Badge α) σ Unit := do
  Step.check bounds.validate
  Step.update fun badge => { badge with bounds }

/-- A badge takes no events. -/
def handleEvent (_ : InputEvent) : Step (Badge α) σ Bool := return false

section Hosted

variable [TextHost α σ]

/-- A font whose line cannot be measured is given up. -/
def loadFont (style : BadgeStyle α) : HostM σ (OwnedFont × TextMetrics α) := do
  let handle ← TextHost.createFont style.text
  tryCatch (do return (OwnedFont.adopt handle, ← TextHost.measureText handle "")) fun e => do
    (OwnedFont.adopt handle).discard
    throw e

def setLabel (label : Option String) : Step (Badge α) σ Unit := do
  if label.isSome ∧ ¬(← Step.self).font.isLive then
    let (font, line) ← Step.host (loadFont (← Step.self).style)
    Step.update fun badge => { badge with font, line }
  Step.update fun badge => { badge with label }

def setStyle (style : BadgeStyle α) : Step (Badge α) σ Unit := do
  Step.check style.validate
  if (← Step.self).font.isLive then
    let (font, line) ← Step.host (loadFont style)
    onFont (OwnedFont.replace font)
    Step.update fun badge => { badge with line }
  Step.update fun badge => { badge with style }

/-- Zero without a label or a font. -/
def labelWidth (badge : Badge α) : HostM σ α :=
  match badge.label, badge.font.handle? with
  | some label, some font => do return (← TextHost.measureText font label).width
  | _, _ => pure 0

/-- Only an exact constraint overrides a badge; it never shrinks. -/
def resolve (spec : MeasureSpec α) (natural : α) : α :=
  match spec with
  | .exactly size => size
  | .atMost _ | .unspecified => natural

def measure (width height : MeasureSpec α) : Step (Badge α) σ (Size α) := do
  Step.check width.validate
  Step.check height.validate
  let badge ← Step.self
  let natural : Size α ←
    if badge.label.isSome then do
      let labelWidth ← Step.host badge.labelWidth
      pure ⟨Row.padded labelWidth badge.style.paddingX badge.style.minWidth, badge.style.height⟩
    else pure ⟨badge.style.dotDiameter, badge.style.dotDiameter⟩
  return ⟨resolve width natural.width, resolve height natural.height⟩

/-- Lays the badge out in its own size at a corner of the anchor. -/
def place (anchor : Rect α) (placement : BadgePlacement α) : Step (Badge α) σ (Rect α) := do
  let size ← measure .unspecified .unspecified
  let bounds ← Step.check (placement.bounds anchor size)
  layout bounds
  return bounds

section Paint

variable [PaintHost α σ]

def paintLabel (badge : Badge α) (label : String) : HostM σ Unit := do
  if badge.font.isLive ∧ badge.style.textColor.isVisible then
    let width ← badge.labelWidth
    let (x, y) := Row.centeredText badge.bounds { badge.line with width }
    let font ← liftExcept badge.font.handle
    PaintHost.drawText font label x y badge.style.textColor
  else pure ()

def paint : Step (Badge α) σ Unit := do
  let badge ← Step.self
  if badge.style.background.isVisible then
    Step.host
      (PaintHost.drawRect badge.bounds badge.style.background (badge.bounds.height * 0.5))
    match badge.label with
    | some label => Step.host (badge.paintLabel label)
    | none => pure ()
  else pure ()

end Paint

/-- Gives the font back; a later label loads another one. -/
def destroy : Step (Badge α) σ Unit := onFont OwnedFont.release

def drop : Step (Badge α) σ Unit := Step.attempt (onFont OwnedFont.release)

def create (style : BadgeStyle α) (label : Option String) : HostM σ (Badge α) := do
  liftExcept style.validate
  Step.construct ⟨style, none, .empty, .zero, .zero, .none⟩ (setLabel label)

end Hosted

def semantics (badge : Badge α) : Semantics :=
  ⟨.text, .none, badge.label, some "Badge", none⟩

end Badge

end Widgetry
