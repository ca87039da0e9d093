import Widgetry.Proofs.Geometry.Uniform
import Widgetry.Proofs.Segmented.Geometry

/-! Segments as a strip of items of one width, which a hit test searches by division. -/
namespace Widgetry

variable {σ : Type}

namespace SegmentLayout

variable {s : SegmentStyle Rat} {items : List String} {bounds : Rect Rat} {l : SegmentLayout Rat}
  {count : Nat}

/-- The segments of a group. -/
def strip (l : SegmentLayout Rat) (count : Nat) : Strip where
  origin := l.startX
  top := l.startY
  height := l.segmentHeight
  gap := l.spacing
  widths := List.replicate count l.segmentWidth

theorem proper_strip (hspacing : 0 ≤ l.spacing) (hwidth : 0 ≤ l.segmentWidth) (count : Nat) :
    (l.strip count).Proper := by
  refine ⟨hspacing, fun w hw => ?_⟩
  rw [List.eq_of_mem_replicate hw]
  exact hwidth

/-- The rectangle of a segment is that of the item in the strip. -/
theorem segmentRect_eq (hwidth : 0 ≤ l.segmentWidth) (hheight : 0 ≤ l.segmentHeight) {i : Nat}
    {rect : Rect Rat} (hrect : (l.strip count).rects[i]? = some rect) :
    l.segmentRect i = .ok rect := by
  obtain ⟨width, hw, rfl⟩ := Strip.getElem?_rects.mp hrect
  obtain ⟨hi, rfl⟩ := (Strip.getElem?_uniform rfl).mp hw
  unfold segmentRect
  rw [if_neg (not_or.mpr ⟨not_lt.mpr hwidth, not_lt.mpr hheight⟩)]
  refine congrArg (fun x => Except.ok (Rect.mk x l.startY l.segmentWidth l.segmentHeight)) ?_
  rw [Strip.start, strip, Strip.offset_replicate _ _ hi.le, mul_comm]
  rfl

/-- A hit test searches the strip. -/
theorem hitTest_picks (hproper : (l.strip count).Proper)
    (hreach : 0 < count → l.contentWidth = (l.strip count).reach) {x y : Rat} :
    (l.strip count).Picks .stride x y (l.hitTest count x y) := by
  unfold hitTest
  split
  next hcount =>
    subst hcount
    exact .of_no_items rfl
  next hcount =>
    have hcount : 0 < count := Nat.pos_of_ne_zero hcount
    rw [hreach hcount]
    split
    next hx => exact .of_outside_run hproper hx
    next hx =>
      obtain ⟨hstart, hend⟩ := not_or.mp hx
      split
      next hy => exact .of_outside_band hy
      next hy =>
        obtain ⟨htop, hbottom⟩ := not_or.mp hy
        exact Strip.picks_uniform rfl hproper hcount (not_lt.mp hstart) (not_lt.mp hend)
          (not_lt.mp htop) (not_lt.mp hbottom)

end SegmentLayout

namespace SegmentStyle

variable {s : SegmentStyle Rat} {measurer : Measurer Rat σ} {items : List String}
  {bounds : Rect Rat} {l : SegmentLayout Rat} {h h' : σ}

/-- The segments of a laid-out group together are as long as its content. -/
theorem proper_of_run (hrun : (s.computeLayout measurer items bounds).run h = (.ok l, h')) :
    (∃ room, l.Seated s items bounds room) ∧ (l.strip items.length).Proper ∧
      (0 < items.length → l.contentWidth = (l.strip items.length).reach) ∧
        ∀ (i : Nat) rect, (l.strip items.length).rects[i]? = some rect →
          l.segmentRect i = .ok rect := by
  obtain ⟨⟨room, hl⟩, hwidth, hcontent⟩ := (ends_of_run hrun).mp s.ends_computeLayout_seated l rfl
  refine ⟨⟨room, hl⟩, SegmentLayout.proper_strip (hl.style.spacing.trans_eq hl.spacing.symm) hwidth
    items.length, fun hcount => ?_, fun i rect hrect => ?_⟩
  · exact hcontent.trans (Strip.reach_uniform (t := l.strip items.length) rfl hcount).symm
  · have hheight : 0 < l.segmentHeight := hl.placed.height (by
      rintro rfl
      exact nomatch hrect)
    exact SegmentLayout.segmentRect_eq hwidth hheight.le hrect

/-- A laid-out group is a strip of segments. -/
theorem strip_of_run (hrun : (s.computeLayout measurer items bounds).run h = (.ok l, h')) :
    ∃ t : Strip, t.Proper ∧ t.gap = s.spacing ∧ t.rects.length = items.length ∧
      (∀ (i : Nat) rect, t.rects[i]? = some rect → l.segmentRect i = .ok rect) ∧
      ∀ x y, t.Picks .stride x y (l.hitTest items.length x y) := by
  obtain ⟨⟨room, hl⟩, hproper, hreach, hrects⟩ := proper_of_run hrun
  refine ⟨l.strip items.length, hproper, hl.spacing, ?_, hrects, fun x y => ?_⟩
  · rw [Strip.length_rects]
    exact List.length_replicate
  · exact SegmentLayout.hitTest_picks hproper hreach

end SegmentStyle

end Widgetry
