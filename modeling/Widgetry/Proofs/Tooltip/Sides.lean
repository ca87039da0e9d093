import Widgetry.Proofs.Sheet.Gate
import Widgetry.Proofs.Tooltip.Placement

/-! The side a tooltip opens on, in exact arithmetic. It stays in the overlay; where its side has
room for it, it does not cover its anchor, and where there is room for the gap too, the gap is
kept. -/
namespace Widgetry

/-- Some point is in both. -/
def Rect.Overlaps (a b : Rect Rat) : Prop := ∃ x y, a.contains x y = true ∧ b.contains x y = true

theorem not_negative {a b : Rat} (h : 0 ≤ a ∧ 0 ≤ b) : ¬(a < 0 ∨ b < 0) :=
  not_or.mpr ⟨not_lt.mpr h.1, not_lt.mpr h.2⟩

theorem TooltipAnchor.sound_of_bounds {anchor : TooltipAnchor Rat}
    (h : 0 ≤ anchor.bounds.width ∧ 0 ≤ anchor.bounds.height) : anchor.Sound := by
  cases anchor with
  | point x y => trivial
  | rect bounds => exact not_negative h

namespace TooltipDirection

def opposite : TooltipDirection → TooltipDirection
  | up => down
  | down => up
  | left => right
  | right => left

/-- What a tooltip takes up on this side of its anchor. -/
def extent (d : TooltipDirection) (r : Rect Rat) : Rat := if d.isVertical then r.height else r.width

/-- Between the anchor and the edge of the overlay. -/
def room (d : TooltipDirection) (anchor overlay : Rect Rat) : Rat :=
  match d with
  | up => anchor.y - overlay.y
  | down => overlay.bottom - anchor.bottom
  | left => anchor.x - overlay.x
  | right => overlay.right - anchor.right

/-- From the anchor to a rectangle on this side of it; not negative where it lies entirely there. -/
def distance (d : TooltipDirection) (anchor r : Rect Rat) : Rat :=
  match d with
  | up => anchor.y - r.bottom
  | down => r.y - anchor.bottom
  | left => anchor.x - r.right
  | right => r.x - anchor.right

/-- The preferred side if it has the room, else the opposite one if that has it, else the one with
more room. -/
def chosen (preferred : TooltipDirection) (extent : Rat) (anchor overlay : Rect Rat) :
    TooltipDirection :=
  if extent ≤ preferred.room anchor overlay then preferred
  else if extent ≤ preferred.opposite.room anchor overlay then preferred.opposite
  else if preferred.opposite.room anchor overlay ≤ preferred.room anchor overlay then preferred
  else preferred.opposite

variable (d : TooltipDirection) (anchor overlay r : Rect Rat) (e : Rat)

theorem extent_transpose : d.transpose.extent r.transpose = d.extent r := by
  cases d <;> rfl

theorem room_transpose : d.transpose.room anchor.transpose overlay.transpose =
    d.room anchor overlay := by
  cases d <;> rfl

theorem distance_transpose : d.transpose.distance anchor.transpose r.transpose =
    d.distance anchor r := by
  cases d <;> rfl

theorem opposite_transpose : d.transpose.opposite = d.opposite.transpose := by
  cases d <;> rfl

/-- The side has the room, or the other one has neither the room nor more of it. -/
def Suffices : Prop := e ≤ d.room anchor overlay ∨
  d.opposite.room anchor overlay < e ∧ d.opposite.room anchor overlay ≤ d.room anchor overlay

theorem chosen_transpose : d.transpose.chosen e anchor.transpose overlay.transpose =
    (d.chosen e anchor overlay).transpose := by
  unfold chosen
  rw [opposite_transpose, room_transpose, room_transpose]
  simp only [apply_ite transpose]

theorem chosen_isVertical : (d.chosen e anchor overlay).isVertical = d.isVertical := by
  have hopposite : d.opposite.isVertical = d.isVertical := by cases d <;> rfl
  unfold chosen
  split_ifs <;> first | rfl | exact hopposite

variable {d anchor overlay r e}

theorem eq_up (hv : d.isVertical = true) (hdown : d ≠ down) : d = up := by
  cases d with
  | up => rfl
  | down => exact (hdown rfl).elim
  | left => exact (Bool.false_ne_true hv).elim
  | right => exact (Bool.false_ne_true hv).elim

theorem Suffices.chosen_eq (h : d.Suffices anchor overlay e) : d.chosen e anchor overlay = d := by
  unfold chosen
  split
  · rfl
  next hroom =>
    obtain ⟨hother, hmore⟩ := h.resolve_left hroom
    rw [if_neg (not_le.mpr hother), if_pos hmore]

theorem chosen_of_not_suffices (h : ¬d.Suffices anchor overlay e) :
    d.chosen e anchor overlay = d.opposite := by
  obtain ⟨hroom, hother⟩ := not_or.mp h
  unfold chosen
  rw [if_neg hroom]
  split
  · rfl
  next hshort => rw [if_neg fun hmore => hother ⟨not_le.mp hshort, hmore⟩]

/-- What lies on one side of an anchor does not overlap it. -/
theorem not_overlaps_of_distance (h : 0 ≤ d.distance anchor r) : ¬r.Overlaps anchor := by
  rintro ⟨x, y, hr, hanchor⟩
  simp only [Rect.contains, Bool.and_eq_true, decide_eq_true_eq] at hr hanchor
  cases d <;> simp only [distance] at h <;> linarith

end TooltipDirection

namespace TooltipPlacement

section Axis

variable {low high extent pos bound : Rat}

/-- What fits an interval is moved into it. -/
theorem clamped_within (h : extent ≤ high - low) :
    low ≤ clamped pos extent low high ∧ clamped pos extent low high + extent ≤ high := by
  constructor
  · exact le_min (le_max_right pos low) (by linarith)
  · exact le_sub_iff_add_le.mp (min_le_right (max pos low) (high - extent))

/-- Nothing is moved back over a bound that leaves it enough room. -/
theorem le_clamped (hpos : bound ≤ pos) (h : extent ≤ high - bound) :
    bound ≤ clamped pos extent low high :=
  le_min (hpos.trans (le_max_left pos low)) (by linarith)

/-- Nor forth over one that lies in the interval. -/
theorem clamped_le (hpos : pos ≤ bound) (h : low ≤ bound) : clamped pos extent low high ≤ bound :=
  (min_le_left (max pos low) (high - extent)).trans (max_le hpos h)

theorem clamped_of_within (hlow : low ≤ pos) (hhigh : pos + extent ≤ high) :
    clamped pos extent low high = pos := by
  rw [clamped, max_eq_left hlow]
  exact min_eq_left (by linarith)

end Axis

/-- A tooltip that prefers a side, where it is placed and on which side. -/
structure Opens (preferred : TooltipDirection) (gap : Rat) (anchor overlay r : Rect Rat)
    (d : TooltipDirection) : Prop where
  side : d = preferred.chosen (preferred.extent r) anchor overlay
  apart : d.extent r ≤ d.room anchor overlay → 0 ≤ d.distance anchor r
  spaced : anchor.Within overlay → d.extent r + gap ≤ d.room anchor overlay →
    d.distance anchor r = gap

variable {p : TooltipPlacement} {anchor overlay : Rect Rat} {size : Size Rat}
  {width height gap : Rat}

open TooltipDirection in
/-- What opens downwards is what chooses to. -/
theorem opensForward_iff {extent : Rat} (hv : p.direction.isVertical = true) :
    opensForward extent (up.room anchor overlay) (down.room anchor overlay)
      (p.direction == down) = true ↔ p.direction.chosen extent anchor overlay = down := by
  cases hd : p.direction with
  | up =>
    have hsuffices : opensForward extent (up.room anchor overlay) (down.room anchor overlay) false =
        true ↔ ¬up.Suffices anchor overlay extent := by
      simp only [opensForward, Suffices, opposite, beq_iff_eq, ← Bool.not_eq_true, Bool.or_eq_true,
        Bool.and_eq_true, decide_eq_true_eq, Bool.false_eq_true, if_false]
    refine hsuffices.trans ⟨chosen_of_not_suffices, fun hdown h => ?_⟩
    exact nomatch h.chosen_eq.symm.trans hdown
  | down =>
    have hsuffices : opensForward extent (up.room anchor overlay) (down.room anchor overlay) true =
        true ↔ down.Suffices anchor overlay extent := by
      simp only [opensForward, Suffices, opposite, beq_iff_eq, Bool.or_eq_true, Bool.and_eq_true,
        decide_eq_true_eq, if_true]
    refine hsuffices.trans ⟨Suffices.chosen_eq, fun hdown => not_not.mp fun h => ?_⟩
    exact nomatch (chosen_of_not_suffices h).symm.trans hdown
  | left => exact nomatch hd ▸ hv
  | right => exact nomatch hd ▸ hv

/-- The gap off the anchor, on the side that is chosen. -/
theorem vertical_eq (hv : p.direction.isVertical = true) :
    p.vertical anchor overlay width height gap =
      if p.direction.chosen height anchor overlay = .down then
        (aligned anchor.x anchor.width width p.align, anchor.bottom + gap, .down)
      else (aligned anchor.x anchor.width width p.align, anchor.y - height - gap, .up) :=
  if_congr (opensForward_iff hv) rfl rfl

section Vertical

variable {preferred : TooltipDirection} {x : Rat}

theorem opens_below (hv : preferred.isVertical = true) (hgap : 0 ≤ gap)
    (hanchor : 0 ≤ anchor.height) (hdown : preferred.chosen height anchor overlay = .down) :
    Opens preferred gap anchor overlay
      (settled overlay width height (x, anchor.bottom + gap, .down)).1 .down := by
  have hside : preferred.extent (settled overlay width height (x, anchor.bottom + gap, .down)).1 =
      height := if_pos hv
  refine ⟨by rw [hside, hdown], fun hroom => ?_, fun hwithin hroom => ?_⟩
  · exact sub_nonneg.mpr (le_clamped (by linarith) hroom)
  · change height + gap ≤ overlay.bottom - anchor.bottom at hroom
    change clamped (anchor.bottom + gap) height overlay.y overlay.bottom - anchor.bottom = gap
    have hbottom : anchor.bottom = anchor.y + anchor.height := rfl
    have hlow : overlay.y ≤ anchor.bottom + gap := by linarith [hwithin.top]
    rw [clamped_of_within hlow (by linarith), add_sub_cancel_left]

theorem opens_above (hv : preferred.isVertical = true) (hgap : 0 ≤ gap)
    (hanchor : 0 ≤ anchor.height) (hup : preferred.chosen height anchor overlay = .up) :
    Opens preferred gap anchor overlay
      (settled overlay width height (x, anchor.y - height - gap, .up)).1 .up := by
  have hside : preferred.extent (settled overlay width height (x, anchor.y - height - gap, .up)).1 =
      height := if_pos hv
  refine ⟨by rw [hside, hup], fun hroom => ?_, fun hwithin hroom => ?_⟩
  · change height ≤ anchor.y - overlay.y at hroom
    have hle : clamped (anchor.y - height - gap) height overlay.y overlay.bottom ≤
        anchor.y - height := clamped_le (by linarith) (by linarith)
    exact sub_nonneg.mpr (le_sub_iff_add_le.mp hle)
  · change height + gap ≤ anchor.y - overlay.y at hroom
    change anchor.y - (clamped (anchor.y - height - gap) height overlay.y overlay.bottom + height) =
      gap
    have hbottom : anchor.y + anchor.height ≤ overlay.bottom := hwithin.bottom
    have hhigh : anchor.y - height - gap + height ≤ overlay.bottom := by linarith
    rw [clamped_of_within (by linarith) hhigh]
    linarith

theorem opens_vertical (hv : p.direction.isVertical = true) (hgap : 0 ≤ gap)
    (hanchor : 0 ≤ anchor.height) :
    Opens p.direction gap anchor overlay (p.place anchor overlay size gap).1
      (p.place anchor overlay size gap).2 := by
  have hplace : p.place anchor overlay size gap =
      settled overlay (min size.width overlay.width) (min size.height overlay.height)
        (p.vertical anchor overlay (min size.width overlay.width) (min size.height overlay.height)
          gap) := by
    rw [place, opened, if_pos hv]
  rw [hplace, vertical_eq hv]
  split
  next hdown => exact opens_below hv hgap hanchor hdown
  next hdown =>
    have hup := TooltipDirection.eq_up ((p.direction.chosen_isVertical ..).trans hv) hdown
    exact opens_above hv hgap hanchor hup

end Vertical

/-- Left and right are above and below with the axes exchanged. -/
theorem Opens.of_transpose {preferred d : TooltipDirection} {r : Rect Rat}
    (h : Opens preferred.transpose gap anchor.transpose overlay.transpose r.transpose d.transpose) :
    Opens preferred gap anchor overlay r d := by
  obtain ⟨hside, hapart, hspaced⟩ := h
  rw [TooltipDirection.extent_transpose, TooltipDirection.chosen_transpose] at hside
  rw [TooltipDirection.extent_transpose, TooltipDirection.room_transpose,
    TooltipDirection.distance_transpose] at hapart hspaced
  refine ⟨TooltipDirection.transpose_injective hside, hapart, fun hwithin => hspaced ?_⟩
  exact ⟨hwithin.top, hwithin.bottom, hwithin.left, hwithin.right⟩

theorem opens_place (hgap : 0 ≤ gap) (hwidth : 0 ≤ anchor.width) (hheight : 0 ≤ anchor.height) :
    Opens p.direction gap anchor overlay (p.place anchor overlay size gap).1
      (p.place anchor overlay size gap).2 := by
  cases hv : p.direction.isVertical with
  | true => exact opens_vertical hv hgap hheight
  | false =>
    have hv' : p.transpose.direction.isVertical = true := by
      rw [← Bool.not_false, ← hv]
      exact p.direction.isVertical_transpose
    have hopens : Opens p.transpose.direction gap anchor.transpose overlay.transpose
        (p.transpose.place anchor.transpose overlay.transpose size.transpose gap).1
        (p.transpose.place anchor.transpose overlay.transpose size.transpose gap).2 :=
      opens_vertical hv' hgap hwidth
    rw [place_transpose] at hopens
    exact hopens.of_transpose

theorem place_within : (p.place anchor overlay size gap).1.Within overlay := by
  have hw : min size.width overlay.width ≤ overlay.right - overlay.x := by
    rw [Rect.right, add_sub_cancel_left]
    exact min_le_right _ _
  have hh : min size.height overlay.height ≤ overlay.bottom - overlay.y := by
    rw [Rect.bottom, add_sub_cancel_left]
    exact min_le_right _ _
  exact ⟨(clamped_within hw).1, (clamped_within hw).2, (clamped_within hh).1, (clamped_within hh).2⟩

/-- A style that is checked has a gap. -/
theorem anchorGap_nonneg {style : TooltipStyle Rat} {requireFamily : Bool}
    (h : style.validate requireFamily = .ok ()) : 0 ≤ style.anchorGap := by
  obtain ⟨hlengths, -⟩ := Validate.seq_eq_ok.mp h
  refine Validate.nonNegative_eq_ok.mp hlengths (style.anchorGap, "tooltip anchor gap") ?_
  simp [TooltipStyle.lengths]

/-- A valid tooltip has a place within the overlay. It opens on the side that has the room, as it
prefers; where there is room it lies off its anchor, and with room for the gap it keeps the gap. -/
theorem opens_beside_anchor (p : TooltipPlacement) (style : TooltipStyle Rat)
    (anchor : TooltipAnchor Rat) (overlay : Rect Rat) (size : Size Rat)
    (hstyle : style.validate false = .ok ())
    (hanchor : 0 ≤ anchor.bounds.width ∧ 0 ≤ anchor.bounds.height)
    (hoverlay : 0 ≤ overlay.width ∧ 0 ≤ overlay.height)
    (hsize : 0 ≤ size.width ∧ 0 ≤ size.height) :
    ∃ r d, p.computeBounds style anchor overlay size = .ok (r, d) ∧
      r.width = min size.width overlay.width ∧ r.height = min size.height overlay.height ∧
      r.Within overlay ∧
      d = p.direction.chosen (p.direction.extent r) anchor.bounds overlay ∧
      (d.extent r ≤ d.room anchor.bounds overlay →
        0 ≤ d.distance anchor.bounds r ∧ ¬r.Overlaps anchor.bounds) ∧
      (anchor.bounds.Within overlay →
        d.extent r + style.anchorGap ≤ d.room anchor.bounds overlay →
        d.distance anchor.bounds r = style.anchorGap) := by
  have hopens : Opens p.direction style.anchorGap anchor.bounds overlay
      (p.place anchor.bounds overlay size style.anchorGap).1
      (p.place anchor.bounds overlay size style.anchorGap).2 :=
    opens_place (anchorGap_nonneg hstyle) hanchor.1 hanchor.2
  have hplace := computeBounds_eq_ok (p := p) hstyle (TooltipAnchor.sound_of_bounds hanchor)
    (not_negative hoverlay) (not_negative hsize)
  refine ⟨_, _, hplace, rfl, rfl, place_within, hopens.side, fun hroom => ?_, hopens.spaced⟩
  have hapart := hopens.apart hroom
  exact ⟨hapart, TooltipDirection.not_overlaps_of_distance hapart⟩

/-- There is no room to the right of the pointer, so the tooltip opens to the left of it. -/
theorem opens_beside_anchor_flipped :
    (TooltipStyle.plain : TooltipStyle Rat).validate false = .ok () ∧
    (TooltipPlacement.mk .right .center).computeBounds .plain (.point 390 150)
      (⟨0, 0, 400, 300⟩ : Rect Rat) ⟨60, 24⟩ = .ok (⟨326, 138, 60, 24⟩, .left) ∧
    ¬(⟨326, 138, 60, 24⟩ : Rect Rat).Overlaps (TooltipAnchor.point 390 150).bounds ∧
    TooltipDirection.left.distance (TooltipAnchor.point 390 150).bounds ⟨326, 138, 60, 24⟩ = 4 := by
  have hstyle : (TooltipStyle.plain : TooltipStyle Rat).validate false = .ok () := by
    decide +kernel
  have hrun : (TooltipPlacement.mk .right .center).computeBounds .plain (.point 390 150)
      (⟨0, 0, 400, 300⟩ : Rect Rat) ⟨60, 24⟩ = .ok (⟨326, 138, 60, 24⟩, .left) := by
    decide +kernel
  obtain ⟨r, d, hplace, -, -, -, -, hapart, hspaced⟩ :=
    opens_beside_anchor ⟨.right, .center⟩ .plain (.point 390 150) ⟨0, 0, 400, 300⟩ ⟨60, 24⟩ hstyle
      (by decide +kernel) (by decide +kernel) (by decide +kernel)
  obtain ⟨rfl, rfl⟩ := Prod.mk.inj (Except.ok.inj (hplace.symm.trans hrun))
  refine ⟨hstyle, hrun, (hapart (by decide +kernel)).2, ?_⟩
  rw [hspaced ⟨by decide +kernel, by decide +kernel, by decide +kernel, by decide +kernel⟩
    (by decide +kernel)]
  decide +kernel

end TooltipPlacement

end Widgetry
