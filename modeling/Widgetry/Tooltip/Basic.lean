import Widgetry.Flags
import Widgetry.Font
import Widgetry.Input
import Widgetry.Tooltip.Placement
/-!
A tooltip: a body, and a title above it in the rich variant, in a box placed against an anchor.
-/
namespace Widgetry

structure Tooltip (α : Type) where
  style : TooltipStyle α
  anchor : TooltipAnchor α
  placement : TooltipPlacement
  title : Option String
  body : String
  /-- Empty in the plain variant. -/
  titleFont : OwnedFont
  bodyFont : OwnedFont
  /-- Metrics of the lines in the held fonts, once measured. -/
  content? : Option (TooltipContent α)
  bounds : Rect α
  /-- The side it opened on. -/
  direction : TooltipDirection
  flags : WidgetFlags

namespace Tooltip

variable {α σ : Type} [Scalar α]

def onTitleFont (act : Step OwnedFont σ Unit) : Step (Tooltip α) σ Unit :=
  Step.zoom titleFont (fun titleFont tip => { tip with titleFont }) act

def onBodyFont (act : Step OwnedFont σ Unit) : Step (Tooltip α) σ Unit :=
  Step.zoom bodyFont (fun bodyFont tip => { tip with bodyFont }) act

def setTitle (title : Option String) : Step (Tooltip α) σ Unit :=
  Step.update fun tip => { tip with title, content? := none }

def setBody (body : String) : Step (Tooltip α) σ Unit :=
  Step.update fun tip => { tip with body, content? := none }

def setFlags (flags : WidgetFlags) : Step (Tooltip α) σ Unit :=
  Step.update fun tip => { tip with flags }

/-- The tooltip moves with the next layout. -/
def setAnchor (anchor : TooltipAnchor α) (placement : TooltipPlacement) :
    Step (Tooltip α) σ Unit := do
  let _ ← Step.check anchor.toRect
  Step.update fun tip => { tip with anchor, placement }

/-- A tooltip takes no events. -/
def handleEvent (_ : InputEvent) : Step (Tooltip α) σ Bool := return false

/-- The second outcome counts when the first is a success. -/
def both (first second : Except Error Unit) : Except Error Unit :=
  match first with
  | .ok () => second
  | .error e => .error e

section Hosted

variable [TextHost α σ]

/-- Fonts for title and body. A title font whose body font fails is given up. -/
def createFonts (style : TooltipStyle α) : HostM σ (OwnedFont × OwnedFont) :=
  match style.variant with
  | .plain => return (.empty, ← OwnedFont.create style.text)
  | .rich => do
    let title ← OwnedFont.create style.title
    tryCatch (do return (title, ← OwnedFont.create style.body)) fun e => do
      title.discard
      throw e

/-- Releases both fonts, the second one also when the first fails. -/
def releaseFonts : Step (Tooltip α) σ (Except Error Unit) := do
  let title ← try onTitleFont OwnedFont.release; pure (.ok ()) catch e => pure (.error e)
  let body ← try onBodyFont OwnedFont.release; pure (.ok ()) catch e => pure (.error e)
  return both title body

/-- Swaps the fonts first; a failure to release the old ones leaves the new style in place. -/
def setStyle (style : TooltipStyle α) : Step (Tooltip α) σ Unit := do
  Step.check (style.validate true)
  let (titleFont, bodyFont) ← Step.host (createFonts style)
  let released ← releaseFonts
  Step.update fun tip => { tip with style, titleFont, bodyFont, content? := none }
  Step.check released

def measureBody (tip : Tooltip α) : HostM σ (Option (TextMetrics α)) :=
  if tip.body.isEmpty then pure none
  else do
    let font ← liftExcept tip.bodyFont.handle
    return some (← TextHost.measureText font tip.body)

def measureTitle (tip : Tooltip α) : HostM σ (Option (TextMetrics α)) :=
  match tip.style.variant, tip.title with
  | .rich, some title =>
    if title.isEmpty then pure none
    else do
      let font ← liftExcept tip.titleFont.handle
      return some (← TextHost.measureText font title)
  | _, _ => pure none

/-- Metrics of the lines that are shown; empty lines are not. -/
def content : Step (Tooltip α) σ (TooltipContent α) := do
  let tip ← Step.self
  match tip.content? with
  | some content => return content
  | none =>
    let body ← Step.host tip.measureBody
    let title ← Step.host tip.measureTitle
    Step.update fun tip => { tip with content? := some ⟨title, body⟩ }
    return ⟨title, body⟩

def measure (width height : MeasureSpec α) : Step (Tooltip α) σ (Size α) := do
  Step.check width.validate
  Step.check height.validate
  let content ← content
  let size ← Step.check ((← Step.self).style.contentSize content)
  return ⟨width.resolve size.width, height.resolve size.height⟩

/-- Places the tooltip inside an overlay. -/
def layout (overlay : Rect α) : Step (Tooltip α) σ Unit := do
  Step.check overlay.validate
  let content ← content
  let tip ← Step.self
  let size ← Step.check (tip.style.contentSize content)
  let (bounds, direction) ← Step.check
    (tip.placement.computeBounds tip.style tip.anchor overlay size)
  Step.update fun tip => { tip with bounds, direction }

section Paint

variable [PaintHost α σ]

def drawLine (tip : Tooltip α) (font : OwnedFont) (text : String) (y : α) (color : Color α) :
    HostM σ Unit := do
  let handle ← liftExcept font.handle
  PaintHost.drawText handle text (tip.bounds.x + tip.style.padding.left) y color

def bodyColor (tip : Tooltip α) : Color α :=
  match tip.style.variant with
  | .plain => tip.style.text.color
  | .rich => tip.style.body.color

/-- Draws the title and gives the top of the body. -/
def paintTitle (tip : Tooltip α) (content : TooltipContent α) (y : α) : HostM σ α :=
  match tip.title, content.title with
  | some title, some metrics => do
    tip.drawLine tip.titleFont title (y + metrics.baseline) tip.style.title.color
    return y + metrics.baseline + (metrics.height - metrics.baseline + tip.style.titleBodySpacing)
  | _, _ => pure y

def paint : Step (Tooltip α) σ Unit := do
  if (← Step.self).bounds.isDegenerate then pure ()
  else
    let content ← content
    let tip ← Step.self
    Step.host (PaintHost.drawRect tip.bounds tip.style.background tip.style.cornerRadius)
    let y ← Step.host (tip.paintTitle content (tip.bounds.y + tip.style.padding.top))
    match content.body with
    | some metrics =>
      Step.host (tip.drawLine tip.bodyFont tip.body (y + metrics.baseline) tip.bodyColor)
    | none => pure ()

end Paint

def destroy : Step (Tooltip α) σ Unit := do
  let released ← releaseFonts
  Step.update fun tip => { tip with content? := none, bounds := .zero }
  Step.check released

def drop : Step (Tooltip α) σ Unit := do
  let _ ← releaseFonts

def create (style : TooltipStyle α) (anchor : TooltipAnchor α) (placement : TooltipPlacement)
    (body : String) : HostM σ (Tooltip α) := do
  liftExcept (style.validate true)
  let _ ← liftExcept anchor.toRect
  let (titleFont, bodyFont) ← createFonts style
  return {
    style, anchor, placement, body, titleFont, bodyFont
    title := none
    content? := none
    bounds := .zero
    direction := placement.direction
    flags := .none }

end Hosted

def semantics (tip : Tooltip α) : Semantics :=
  ⟨.text, .none, some tip.body, tip.title, none⟩

end Tooltip

end Widgetry
