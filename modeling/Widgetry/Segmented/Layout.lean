import Widgetry.RowGeometry
import Widgetry.Segmented.Style
/-!
Geometry of segmented buttons, which always share the width evenly.
-/
namespace Widgetry

structure SegmentLayout (α : Type) where
  startX : α
  startY : α
  segmentWidth : α
  segmentHeight : α
  spacing : α
  contentWidth : α
  contentHeight : α
  deriving DecidableEq

variable {α σ : Type} [Scalar α]

namespace SegmentStyle

def bandHeight (s : SegmentStyle α) (extents : LabelExtents α) : α :=
  Row.padded extents.height s.paddingY s.minHeight

def measureContent (s : SegmentStyle α) (measurer : Measurer α σ) (items : List String) :
    HostM σ (Size α) := do
  liftExcept (s.validate false)
  let extents ← LabelExtents.measure measurer items
  let width := Row.padded extents.width s.paddingX s.minWidth
  return ⟨Row.runLength width s.spacing items.length + s.padding.horizontal,
    s.bandHeight extents + s.padding.vertical⟩

def computeLayout (s : SegmentStyle α) (measurer : Measurer α σ) (items : List String)
    (bounds : Rect α) : HostM σ (SegmentLayout α) := do
  liftExcept (s.validate false)
  liftExcept bounds.validate
  let available ← liftExcept (bounds.inset s.padding)
  let extents ← LabelExtents.measure measurer items
  let band ← liftExcept
    (Row.fitBand (s.bandHeight extents) available.y available.height items.length)
  let segmentWidth ← liftExcept (Row.evenWidth available.width s.spacing items.length)
  return {
    startX := available.x
    startY := band.startY
    segmentWidth
    segmentHeight := band.height
    spacing := s.spacing
    contentWidth := Row.runLength segmentWidth s.spacing items.length
    contentHeight := band.height }

end SegmentStyle

namespace SegmentLayout

def zero : SegmentLayout α := ⟨0, 0, 0, 0, 0, 0, 0⟩

def segmentRect (l : SegmentLayout α) (index : Nat) : Except Error (Rect α) :=
  if l.segmentWidth < 0 ∨ l.segmentHeight < 0 then .error (.range .segmentRectangle)
  else
    .ok {
      x := l.startX + (l.segmentWidth + l.spacing) * Scalar.ofNat index
      y := l.startY
      width := l.segmentWidth
      height := l.segmentHeight }

/-- The one of `count` segments at a point. -/
def hitTest (l : SegmentLayout α) (count : Nat) (x y : α) : Except Error (Option Nat) :=
  if count = 0 then .ok none
  else if x < l.startX ∨ l.startX + l.contentWidth < x then .ok none
  else if y < l.startY ∨ l.startY + l.segmentHeight < y then .ok none
  else Row.uniformHit (x - l.startX) l.segmentWidth l.spacing count

end SegmentLayout

end Widgetry
