import Widgetry.Proofs.Geometry.Exact
import Widgetry.Proofs.Host.Ends
import Widgetry.Segmented.Layout

/-! Where segments lie in exact arithmetic: the layout of a group within its bounds, and the hits
on it. -/
namespace Widgetry

variable {σ : Type}

/-- The numbers of a style that a layout is computed from are not negative. -/
structure SegmentStyle.Positive (s : SegmentStyle Rat) : Prop where
  padding : s.padding.Inward
  spacing : 0 ≤ s.spacing

theorem SegmentStyle.positive_of_validate {s : SegmentStyle Rat} {requireFamily : Bool}
    (h : s.validate requireFamily = .ok ()) : s.Positive := by
  obtain ⟨_, hlengths, h⟩ := Validate.bind_eq_ok.mp h
  obtain ⟨_, hpadding, -⟩ := Validate.bind_eq_ok.mp h
  have hlengths := Validate.nonNegative_eq_ok.mp hlengths
  refine ⟨Edges.inward_of_validate hpadding, ?_⟩
  exact hlengths (s.spacing, "segment spacing is negative") (by simp [lengths])

/-- A layout of segments within their bounds. -/
structure SegmentLayout.Placed (s : SegmentStyle Rat) (items : List String) (bounds : Rect Rat)
    (l : SegmentLayout Rat) : Prop where
  style : s.Positive
  spacing : l.spacing = s.spacing
  left : bounds.x ≤ l.startX
  /-- The segments fill the width they share. -/
  right : items ≠ [] → l.startX + l.contentWidth ≤ bounds.right
  height : items ≠ [] → 0 < l.segmentHeight
  top : items ≠ [] → bounds.y ≤ l.startY
  bottom : items ≠ [] → l.startY + l.segmentHeight ≤ bounds.bottom

/-- A layout of segments in the room that the padding leaves. -/
structure SegmentLayout.Seated (s : SegmentStyle Rat) (items : List String)
    (bounds room : Rect Rat) (l : SegmentLayout Rat) : Prop where
  style : s.Positive
  spacing : l.spacing = s.spacing
  seat : Row.Seat s.padding bounds items.length room ⟨l.startY, l.segmentHeight⟩
  left : l.startX = room.x
  /-- The segments fill the width they share. -/
  fills : items ≠ [] → l.contentWidth = room.width

theorem SegmentLayout.Seated.placed {s : SegmentStyle Rat} {items : List String}
    {bounds room : Rect Rat} {l : SegmentLayout Rat} (hl : l.Seated s items bounds room) :
    l.Placed s items bounds := by
  obtain ⟨hwithin, -, -⟩ := Rect.within_of_inset hl.style.padding hl.seat.inset
  have hband (hitems : items ≠ []) := hl.seat.amid (List.length_pos_iff.mpr hitems)
  refine ⟨hl.style, hl.spacing, ?_, fun hitems => ?_, fun hitems => (hband hitems).height,
    fun hitems => hwithin.top.trans (hband hitems).top,
    fun hitems => (hband hitems).bottom.trans hwithin.bottom⟩
  · rw [hl.left]
    exact hwithin.left
  · rw [hl.left, hl.fills hitems]
    exact hwithin.right

theorem SegmentStyle.ends_computeLayout_seated {s : SegmentStyle Rat} {measurer : Measurer Rat σ}
    {items : List String} {bounds : Rect Rat} {h : σ} :
    Ends (s.computeLayout measurer items bounds) h fun r _ => ∀ l, r = .ok l →
      (∃ room, l.Seated s items bounds room) ∧ 0 ≤ l.segmentWidth ∧
        l.contentWidth = Row.runLength l.segmentWidth l.spacing items.length := by
  unfold computeLayout
  refine .of_check (fun _ hstyle => ?_) fun _ _ _ hr => nomatch hr
  refine .of_check (fun _ hbounds => ?_) fun _ _ _ hr => nomatch hr
  refine .of_check (fun room hinset => ?_) fun _ _ _ hr => nomatch hr
  have hpositive := positive_of_validate hstyle
  refine (Keeps.of_true _ h trivial).bind (fun extents h₁ _ => ?_) fun _ _ _ _ hr => nomatch hr
  refine .of_check (fun band hband => ?_) fun _ _ _ hr => nomatch hr
  refine .of_check (fun width hwidth => ?_) fun _ _ _ hr => nomatch hr
  rintro l ⟨⟩
  refine ⟨⟨room, hpositive, rfl, ⟨hinset, fun hcount => Row.amid_of_fitBand hcount hband⟩, rfl,
    fun hitems => ?_⟩, Row.nonneg_of_evenWidth hwidth, rfl⟩
  exact Row.runLength_evenWidth (List.length_pos_iff.mpr hitems) hwidth

theorem SegmentStyle.ends_computeLayout {s : SegmentStyle Rat} {measurer : Measurer Rat σ}
    {items : List String} {bounds : Rect Rat} {h : σ} :
    Ends (s.computeLayout measurer items bounds) h fun r _ => ∀ l, r = .ok l →
      l.Placed s items bounds ∧ 0 ≤ l.segmentWidth ∧
        l.contentWidth = Row.runLength l.segmentWidth l.spacing items.length := by
  apply ends_computeLayout_seated.imp
  intro r _ hr l hl
  obtain ⟨⟨room, hseated⟩, hlengths⟩ := hr l hl
  exact ⟨hseated.placed, hlengths⟩

/-- Segments are hit within the bounds only. -/
theorem SegmentLayout.Placed.covers {s : SegmentStyle Rat} {items : List String}
    {bounds : Rect Rat} {l : SegmentLayout Rat} (hl : l.Placed s items bounds) {x y : Rat}
    {index : Nat} (hhit : l.hitTest items.length x y = .ok (some index)) : bounds.Covers x y := by
  unfold hitTest at hhit
  split at hhit
  · exact nomatch hhit
  split at hhit
  · exact nomatch hhit
  split at hhit
  · exact nomatch hhit
  next hcount hx hy =>
    have hitems : items ≠ [] := by simpa using hcount
    obtain ⟨hstart, hend⟩ := not_or.mp hx
    obtain ⟨htop, hbottom⟩ := not_or.mp hy
    exact ⟨hl.left.trans (not_lt.mp hstart), (not_lt.mp hend).trans (hl.right hitems),
      (hl.top hitems).trans (not_lt.mp htop), (not_lt.mp hbottom).trans (hl.bottom hitems)⟩

end Widgetry
