import Widgetry.Badge.Basic
import Widgetry.Label
import Widgetry.Segmented.Group
import Widgetry.Tabs.Row
import Widgetry.Tooltip.Basic
/-!
Any widget of the toolkit, driven in one way: a host measures it, lays it out in its final bounds,
paints it and sends it events.
-/
namespace Widgetry

inductive Widget (α σ χ : Type) where
  | tabs (row : TabRow α σ χ)
  | segmented (group : SegmentGroup α σ)
  | label (label : Label α)
  | badge (badge : Badge α)
  | tooltip (tip : Tooltip α)

inductive WidgetKind where
  | tabs
  | segmented
  | label
  | badge
  | tooltip
  deriving DecidableEq, Repr

namespace Widget

variable {α σ χ β : Type}

def kind : Widget α σ χ → WidgetKind
  | tabs _ => .tabs
  | segmented _ => .segmented
  | label _ => .label
  | badge _ => .badge
  | tooltip _ => .tooltip

/-- A step of a part, put back by `wrap`. -/
def inside {ω : Type} (wrap : ω → Widget α σ χ) (part : ω) (act : Step ω σ β) (host : σ) :
    Except Error β × Widget α σ χ × σ :=
  let (r, part, host) := act.run (part, host)
  (r, wrap part, host)

/-- Runs the step for the kind of widget it is. -/
def dispatch (onTabs : Step (TabRow α σ χ) σ β) (onSegmented : Step (SegmentGroup α σ) σ β)
    (onLabel : Step (Label α) σ β) (onBadge : Step (Badge α) σ β)
    (onTooltip : Step (Tooltip α) σ β) : Step (Widget α σ χ) σ β :=
  ExceptT.mk fun (w, host) =>
    match w with
    | tabs row => inside tabs row onTabs host
    | segmented group => inside segmented group onSegmented host
    | label l => inside label l onLabel host
    | badge b => inside badge b onBadge host
    | tooltip tip => inside tooltip tip onTooltip host

def flags : Widget α σ χ → WidgetFlags
  | tabs row => row.flags
  | segmented group => group.flags
  | label l => l.flags
  | badge b => b.flags
  | tooltip tip => tip.flags

def semantics : Widget α σ χ → Semantics
  | tabs row => row.semantics
  | segmented group => group.semantics
  | label l => l.semantics
  | badge b => b.semantics
  | tooltip tip => tip.semantics

/-- The fonts a widget holds. -/
def heldFonts : Widget α σ χ → List FontHandle
  | tabs row => row.font.handle?.toList
  | segmented group => group.font.handle?.toList
  | label l => l.font.handle?.toList
  | badge b => b.font.handle?.toList
  | tooltip tip => tip.titleFont.handle?.toList ++ tip.bodyFont.handle?.toList

section Driven

variable [Scalar α] [TextHost α σ] [Channel α σ χ]

def measure (width height : MeasureSpec α) : Step (Widget α σ χ) σ (Size α) :=
  dispatch (TabRow.measure width height) (SegmentGroup.measure width height)
    (Label.measure width height) (Badge.measure width height) (Tooltip.measure width height)

/-- A tooltip is laid out in the overlay it may open in. -/
def layout (bounds : Rect α) : Step (Widget α σ χ) σ Unit :=
  dispatch (TabRow.layout bounds) (SegmentGroup.layout bounds) (Label.layout bounds)
    (Badge.layout bounds) (Tooltip.layout bounds)

def paint [PaintHost α σ] : Step (Widget α σ χ) σ Unit :=
  dispatch TabRow.paint SegmentGroup.paint Label.paint Badge.paint Tooltip.paint

/-- Tells whether the widget took the event. -/
def handleEvent (event : InputEvent) : Step (Widget α σ χ) σ Bool :=
  dispatch (TabRow.handleEvent event) (SegmentGroup.handleEvent event) (Label.handleEvent event)
    (Badge.handleEvent event) (Tooltip.handleEvent event)

def setFlags (flags : WidgetFlags) : Step (Widget α σ χ) σ Unit :=
  dispatch (TabRow.setFlags flags) (SegmentGroup.setFlags flags) (Label.setFlags flags)
    (Badge.setFlags flags) (Tooltip.setFlags flags)

/-- Advances animations; only tab rows have some. -/
def step (dt : α) : Step (Widget α σ χ) σ Bool :=
  dispatch (TabRow.step dt) (return false) (return false) (return false) (return false)

def destroy : Step (Widget α σ χ) σ Unit :=
  dispatch TabRow.destroy SegmentGroup.destroy Label.destroy Badge.destroy Tooltip.destroy

/-- The end of a widget: its fonts are released, failures are ignored. -/
def drop : Step (Widget α σ χ) σ Unit :=
  dispatch TabRow.drop SegmentGroup.drop Label.drop Badge.drop Tooltip.drop

end Driven

end Widget

end Widgetry
