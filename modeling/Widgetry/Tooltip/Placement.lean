import Widgetry.Tooltip.Style
/-!
Where a tooltip opens. It prefers one side of its anchor, flips when only the opposite side has
room, takes the roomier side when neither has, and is then moved into the overlay.
-/
namespace Widgetry

inductive TooltipAnchor (α : Type) where
  | rect (bounds : Rect α)
  | point (x y : α)

inductive TooltipDirection where
  | up
  | down
  | left
  | right
  deriving DecidableEq, Repr

/-- Along the side of the anchor. -/
inductive TooltipAlign where
  | start
  | center
  | end_
  deriving DecidableEq, Repr

structure TooltipPlacement where
  direction : TooltipDirection
  align : TooltipAlign
  deriving DecidableEq, Repr

/-- Metrics of the lines to show. -/
structure TooltipContent (α : Type) where
  title : Option (TextMetrics α)
  body : Option (TextMetrics α)
  deriving DecidableEq

namespace TooltipDirection

def isVertical : TooltipDirection → Bool
  | up | down => true
  | left | right => false

def ofCode (code : UInt32) : Except Error TooltipDirection :=
  match code with
  | 0 => .ok up
  | 1 => .ok down
  | 2 => .ok left
  | 3 => .ok right
  | _ => .error (.range .tooltipDirectionCode)

end TooltipDirection

def TooltipAlign.ofCode (code : UInt32) : Except Error TooltipAlign :=
  match code with
  | 0 => .ok start
  | 1 => .ok center
  | 2 => .ok end_
  | _ => .error (.range .tooltipAlignCode)

def TooltipPlacement.default : TooltipPlacement := ⟨.up, .center⟩

variable {α : Type} [Scalar α]

/-- A point is a rectangle without extent. -/
def TooltipAnchor.toRect : TooltipAnchor α → Except Error (Rect α)
  | rect bounds =>
    match bounds.validate with
    | .ok () => .ok bounds
    | .error e => .error e
  | point x y => .ok ⟨x, y, 0, 0⟩

namespace TooltipContent

def isEmpty (c : TooltipContent α) (variant : TooltipVariant) : Bool :=
  match variant with
  | .plain => c.body.isNone
  | .rich => c.title.isNone && c.body.isNone

def negative (m : TextMetrics α) : Bool :=
  decide (m.width < 0) || decide (m.height < 0) || decide (m.baseline < 0)

def validate (c : TooltipContent α) (variant : TooltipVariant) : Except Error Unit :=
  if c.title.any negative ∨ c.body.any negative then .error (.range .tooltipMetrics)
  else if c.isEmpty variant then .error (.invalidArgument .tooltipEmpty)
  else .ok ()

/-- Extent of the lines, a title above a body. -/
def extent (c : TooltipContent α) (s : TooltipStyle α) : Size α :=
  match s.variant, c.title, c.body with
  | .plain, _, some body => ⟨body.width, body.height⟩
  | .plain, _, none => .zero
  | .rich, none, none => .zero
  | .rich, some title, none => ⟨title.width, title.height⟩
  | .rich, none, some body => ⟨max 0 body.width, 0 + body.height⟩
  | .rich, some title, some body =>
    ⟨max title.width body.width, title.height + s.titleBodySpacing + body.height⟩

end TooltipContent

namespace TooltipStyle

/-- A limit of zero is none. -/
def limited (content minimum maximum : α) : α :=
  let raised := if 0 < minimum then max content minimum else content
  if 0 < maximum then min raised maximum else raised

/-- The size of a tooltip around its lines. -/
def contentSize (s : TooltipStyle α) (content : TooltipContent α) : Except Error (Size α) := do
  s.validate false
  content.validate s.variant
  let lines := content.extent s
  return ⟨limited (lines.width + s.padding.horizontal) s.minWidth s.maxWidth,
    limited (lines.height + s.padding.vertical) s.minHeight s.maxHeight⟩

end TooltipStyle

namespace TooltipPlacement

/-- Whether an extent opens after the anchor rather than before it. -/
def opensForward (extent before after : α) (preferForward : Bool) : Bool :=
  let preferred := if preferForward then after else before
  let other := if preferForward then before else after
  let keep := decide (extent ≤ preferred) || (decide (other < extent) && decide (other ≤ preferred))
  keep == preferForward

def aligned (start span extent : α) (align : TooltipAlign) : α :=
  match align with
  | .start => start
  | .center => start + (span - extent) * 0.5
  | .end_ => start + span - extent

/-- Places an extent into the interval from `low` to `high`. -/
def clamped (pos extent low high : α) : α := min (max pos low) (high - extent)

/-- Above or below the anchor. -/
def vertical (p : TooltipPlacement) (anchor overlay : Rect α) (width height gap : α) :
    α × α × TooltipDirection :=
  let x := aligned anchor.x anchor.width width p.align
  if opensForward height (anchor.y - overlay.y) (overlay.bottom - anchor.bottom)
      (p.direction == .down) then (x, anchor.bottom + gap, .down)
  else (x, anchor.y - height - gap, .up)

/-- Left or right of the anchor. -/
def horizontal (p : TooltipPlacement) (anchor overlay : Rect α) (width height gap : α) :
    α × α × TooltipDirection :=
  let y := aligned anchor.y anchor.height height p.align
  if opensForward width (anchor.x - overlay.x) (overlay.right - anchor.right)
      (p.direction == .right) then (anchor.right + gap, y, .right)
  else (anchor.x - width - gap, y, .left)

/-- The place of a tooltip of a size, no larger than the overlay, and the side it opens on. -/
def computeBounds (p : TooltipPlacement) (style : TooltipStyle α) (anchor : TooltipAnchor α)
    (overlay : Rect α) (size : Size α) : Except Error (Rect α × TooltipDirection) := do
  style.validate false
  let anchor ← anchor.toRect
  overlay.validate
  if size.width < 0 ∨ size.height < 0 then throw (.range .tooltipSize)
  let width := min size.width overlay.width
  let height := min size.height overlay.height
  let (x, y, direction) :=
    if p.direction.isVertical then p.vertical anchor overlay width height style.anchorGap
    else p.horizontal anchor overlay width height style.anchorGap
  return (⟨clamped x width overlay.x overlay.right, clamped y height overlay.y overlay.bottom,
    width, height⟩, direction)

end TooltipPlacement

end Widgetry
