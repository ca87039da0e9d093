import Widgetry.Flags
import Widgetry.Font
import Widgetry.Input
/-!
A plain text label. Its metrics are measured once per text and font.
-/
namespace Widgetry

structure Label (α : Type) where
  style : TextStyle α
  text : String
  font : OwnedFont
  /-- Metrics of the text in the held font, once measured. -/
  metrics? : Option (TextMetrics α)
  bounds : Rect α
  flags : WidgetFlags
  deriving DecidableEq

namespace Label

variable {α σ : Type} [Scalar α]

def onFont (act : Step OwnedFont σ Unit) : Step (Label α) σ Unit :=
  Step.zoom font (fun font label => { label with font }) act

def setText (text : String) : Step (Label α) σ Unit :=
  Step.update fun label => { label with text, metrics? := none }

def setFlags (flags : WidgetFlags) : Step (Label α) σ Unit :=
  Step.update fun label => { label with flags }

def layout (bounds : Rect α) : Step (Label α) σ Unit := do
  Step.check bounds.validate
  Step.update fun label => { label with bounds }

/-- A label takes no events. -/
def handleEvent (_ : InputEvent) : Step (Label α) σ Bool := return false

section Hosted

variable [TextHost α σ]

def setStyle (style : TextStyle α) : Step (Label α) σ Unit := do
  Step.check (style.validate true)
  let font ← Step.host (OwnedFont.create style)
  onFont (OwnedFont.replace font)
  Step.update fun label => { label with style, metrics? := none }

def metrics : Step (Label α) σ (TextMetrics α) := do
  let label ← Step.self
  match label.metrics? with
  | some metrics => return metrics
  | none =>
    let font ← Step.check label.font.handle
    let metrics ← Step.host (TextHost.measureText font label.text)
    Step.update fun label => { label with metrics? := some metrics }
    return metrics

def measure (width height : MeasureSpec α) : Step (Label α) σ (Size α) := do
  Step.check width.validate
  Step.check height.validate
  let metrics ← metrics
  return ⟨width.resolve metrics.width, height.resolve metrics.height⟩

def paint [PaintHost α σ] : Step (Label α) σ Unit := do
  let metrics ← metrics
  let label ← Step.self
  let font ← Step.check label.font.handle
  Step.host (PaintHost.drawText font label.text label.bounds.x
    (label.bounds.y + metrics.baseline) label.style.color)

def destroy : Step (Label α) σ Unit := do
  let released ← try onFont OwnedFont.release; pure (.ok ()) catch e => pure (.error e)
  Step.update fun label => { label with text := "", metrics? := none }
  Step.check released

def drop : Step (Label α) σ Unit := Step.attempt (onFont OwnedFont.release)

def create (style : TextStyle α) (text : String) : HostM σ (Label α) := do
  liftExcept (style.validate true)
  let font ← OwnedFont.create style
  return { style, text, font, metrics? := none, bounds := .zero, flags := .none }

end Hosted

def semantics (label : Label α) : Semantics := ⟨.text, .none, some label.text, none, none⟩

end Label

end Widgetry
