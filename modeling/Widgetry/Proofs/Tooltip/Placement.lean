import Widgetry.Tooltip.Placement

/-! A placement is a few checks and then arithmetic. Above and below are left and right with the
axes exchanged: the branches do the same operations in the same order, so this holds of rounded
numbers too. -/
namespace Widgetry

variable {α : Type}

def Rect.transpose (r : Rect α) : Rect α := ⟨r.y, r.x, r.height, r.width⟩

def Size.transpose (s : Size α) : Size α := ⟨s.height, s.width⟩

def TooltipAnchor.transpose : TooltipAnchor α → TooltipAnchor α
  | rect bounds => rect bounds.transpose
  | point x y => point y x

def TooltipDirection.transpose : TooltipDirection → TooltipDirection
  | up => left
  | down => right
  | left => up
  | right => down

def TooltipPlacement.transpose (p : TooltipPlacement) : TooltipPlacement :=
  { p with direction := p.direction.transpose }

theorem TooltipDirection.transpose_injective {d e : TooltipDirection}
    (h : d.transpose = e.transpose) : d = e := by
  cases d <;> cases e <;> first | rfl | exact nomatch h

theorem TooltipDirection.transpose_beq (d e : TooltipDirection) :
    (d.transpose == e.transpose) = (d == e) := by
  cases d <;> cases e <;> rfl

theorem TooltipDirection.isVertical_transpose (d : TooltipDirection) :
    d.transpose.isVertical = !d.isVertical := by
  cases d <;> rfl

variable [Scalar α]

/-- A point is a rectangle without extent. -/
def TooltipAnchor.bounds : TooltipAnchor α → Rect α
  | rect bounds => bounds
  | point x y => ⟨x, y, 0, 0⟩

/-- A point, or a rectangle of no negative extent. -/
def TooltipAnchor.Sound : TooltipAnchor α → Prop
  | .point _ _ => True
  | .rect bounds => ¬(bounds.width < 0 ∨ bounds.height < 0)

theorem TooltipAnchor.Sound.toRect_eq_ok {anchor : TooltipAnchor α} (h : anchor.Sound) :
    anchor.toRect = .ok anchor.bounds := by
  cases anchor with
  | point x y => rfl
  | rect bounds =>
    rw [toRect, Rect.validate, if_neg h]
    rfl

theorem Rect.validate_transpose (r : Rect α) : r.transpose.validate = r.validate := by
  unfold validate
  simp only [transpose, or_comm]

theorem TooltipAnchor.toRect_transpose (a : TooltipAnchor α) :
    a.transpose.toRect = a.toRect.map Rect.transpose := by
  cases a with
  | point x y => rfl
  | rect bounds =>
    rw [transpose, toRect, toRect, Rect.validate_transpose]
    cases bounds.validate <;> rfl

namespace TooltipPlacement

variable (p : TooltipPlacement) (style : TooltipStyle α) (anchor : TooltipAnchor α)
  (bounds overlay : Rect α) (size : Size α) (width height gap : α)

/-- What lies across and what lies down change places. -/
def exchange (q : α × α × TooltipDirection) : α × α × TooltipDirection :=
  (q.2.1, q.1, q.2.2.transpose)

theorem horizontal_transpose :
    p.transpose.horizontal bounds.transpose overlay.transpose height width gap =
      exchange (p.vertical bounds overlay width height gap) := by
  have hside : (p.transpose.direction == .right) = (p.direction == .down) :=
    p.direction.transpose_beq .down
  rw [horizontal, vertical, hside, apply_ite exchange]
  rfl

theorem vertical_transpose :
    p.transpose.vertical bounds.transpose overlay.transpose height width gap =
      exchange (p.horizontal bounds overlay width height gap) := by
  have hside : (p.transpose.direction == .down) = (p.direction == .right) :=
    p.direction.transpose_beq .right
  rw [horizontal, vertical, hside, apply_ite exchange]
  rfl

/-- Beside the anchor, before the tooltip is moved into the overlay. -/
def opened : α × α × TooltipDirection :=
  if p.direction.isVertical then p.vertical bounds overlay width height gap
  else p.horizontal bounds overlay width height gap

theorem opened_transpose :
    p.transpose.opened bounds.transpose overlay.transpose height width gap =
      exchange (p.opened bounds overlay width height gap) := by
  have haxis : p.transpose.direction.isVertical = !p.direction.isVertical :=
    p.direction.isVertical_transpose
  rw [opened, opened, haxis, horizontal_transpose, vertical_transpose]
  cases p.direction.isVertical <;> rfl

/-- Moved into the overlay. -/
def settled (q : α × α × TooltipDirection) : Rect α × TooltipDirection :=
  (⟨clamped q.1 width overlay.x overlay.right, clamped q.2.1 height overlay.y overlay.bottom,
    width, height⟩, q.2.2)

/-- The place of a tooltip, whatever the checks would say. -/
def place : Rect α × TooltipDirection :=
  let width := min size.width overlay.width
  let height := min size.height overlay.height
  settled overlay width height (p.opened bounds overlay width height gap)

theorem place_transpose : p.transpose.place bounds.transpose overlay.transpose size.transpose gap =
    ((p.place bounds overlay size gap).1.transpose,
      (p.place bounds overlay size gap).2.transpose) := by
  change settled _ _ _ (p.transpose.opened bounds.transpose overlay.transpose
    (min size.height overlay.height) (min size.width overlay.width) gap) = _
  rw [opened_transpose]
  rfl

theorem computeBounds_eq : p.computeBounds style anchor overlay size = (do
    style.validate false
    let bounds ← anchor.toRect
    overlay.validate
    if size.width < 0 ∨ size.height < 0 then throw (.range .tooltipSize)
    else return p.place bounds overlay size style.anchorGap) := rfl

variable {p style anchor overlay size} in
theorem computeBounds_eq_ok (hstyle : style.validate false = .ok ()) (hanchor : anchor.Sound)
    (hoverlay : ¬(overlay.width < 0 ∨ overlay.height < 0))
    (hsize : ¬(size.width < 0 ∨ size.height < 0)) :
    p.computeBounds style anchor overlay size =
      .ok (p.place anchor.bounds overlay size style.anchorGap) := by
  rw [computeBounds_eq, hstyle, hanchor.toRect_eq_ok, Rect.validate, if_neg hoverlay]
  exact if_neg hsize

/-- With the axes exchanged, what is refused is refused for the same reason, and what has a place
has the same place with the axes exchanged. -/
theorem computeBounds_transpose :
    p.transpose.computeBounds style anchor.transpose overlay.transpose size.transpose =
      (p.computeBounds style anchor overlay size).map fun q => (q.1.transpose, q.2.transpose) := by
  rw [computeBounds_eq, computeBounds_eq, anchor.toRect_transpose, overlay.validate_transpose]
  cases style.validate false with
  | error e => rfl
  | ok =>
    cases anchor.toRect with
    | error e => rfl
    | ok bounds =>
      cases overlay.validate with
      | error e => rfl
      | ok =>
        change (if size.height < 0 ∨ size.width < 0 then _ else _) =
          Except.map _ (if size.width < 0 ∨ size.height < 0 then _ else _)
        by_cases hsize : size.width < 0 ∨ size.height < 0
        · rw [if_pos hsize, if_pos hsize.symm]
          rfl
        · rw [if_neg hsize, if_neg fun h => hsize h.symm]
          exact congrArg Except.ok (p.place_transpose bounds overlay size style.anchorGap)

end TooltipPlacement

end Widgetry
