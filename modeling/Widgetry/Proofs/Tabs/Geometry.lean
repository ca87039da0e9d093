import Widgetry.Proofs.Geometry.Exact
import Widgetry.Proofs.Host.Ends
import Widgetry.Tabs.Layout

/-! Where a row lies in exact arithmetic: the layout of a row within its bounds, the offsets it
scrolls to, and the content that a hit is on. -/
namespace Widgetry

variable {σ : Type}

theorem TabMode.scrollable_of_ne {mode : TabMode} (h : ¬mode = .fixed) : mode = .scrollable := by
  cases mode with
  | fixed => exact (h rfl).elim
  | scrollable => rfl

/-- The numbers of a style that a layout is computed from are not negative. -/
structure TabStyle.Positive (s : TabStyle Rat) : Prop where
  padding : s.padding.Inward
  spacing : 0 ≤ s.spacing
  minWidth : 0 ≤ s.minWidth

theorem TabStyle.positive_of_validate {s : TabStyle Rat} {requireFamily : Bool}
    (h : s.validate requireFamily = .ok ()) : s.Positive := by
  obtain ⟨_, hlengths, h⟩ := Validate.bind_eq_ok.mp h
  obtain ⟨_, hpadding, -⟩ := Validate.bind_eq_ok.mp h
  have hlengths := Validate.nonNegative_eq_ok.mp hlengths
  refine ⟨Edges.inward_of_validate hpadding, ?_, ?_⟩
  · exact hlengths (s.spacing, "tab spacing is negative") (by simp [lengths])
  · exact hlengths (s.minWidth, "tab min width is negative") (by simp [lengths])

namespace TabLayout

/-- A layout of tabs within their bounds. -/
structure Placed (s : TabStyle Rat) (items : List String) (bounds : Rect Rat)
    (l : TabLayout Rat) : Prop where
  style : s.Positive
  mode : l.mode = s.mode
  spacing : l.spacing = s.spacing
  left : bounds.x ≤ l.startX
  right : l.startX + l.availableWidth ≤ bounds.right
  height : items ≠ [] → 0 < l.tabHeight
  top : items ≠ [] → bounds.y ≤ l.startY
  bottom : items ≠ [] → l.startY + l.tabHeight ≤ bounds.bottom
  /-- Fixed tabs fill the width they share. -/
  fills : items ≠ [] → s.mode = .fixed → l.contentWidth = l.availableWidth

/-- A layout of tabs in the room that the padding leaves. -/
structure Seated (s : TabStyle Rat) (items : List String) (bounds room : Rect Rat)
    (l : TabLayout Rat) : Prop where
  style : s.Positive
  mode : l.mode = s.mode
  spacing : l.spacing = s.spacing
  seat : Row.Seat s.padding bounds items.length room ⟨l.startY, l.tabHeight⟩
  left : l.startX = room.x
  width : l.availableWidth = room.width
  /-- Fixed tabs fill the width they share. -/
  fills : items ≠ [] → s.mode = .fixed → l.contentWidth = l.availableWidth

theorem Seated.placed {s : TabStyle Rat} {items : List String} {bounds room : Rect Rat}
    {l : TabLayout Rat} (hl : l.Seated s items bounds room) : l.Placed s items bounds := by
  obtain ⟨hwithin, -, -⟩ := Rect.within_of_inset hl.style.padding hl.seat.inset
  have hband (hitems : items ≠ []) := hl.seat.amid (List.length_pos_iff.mpr hitems)
  refine ⟨hl.style, hl.mode, hl.spacing, ?_, ?_, fun hitems => (hband hitems).height,
    fun hitems => hwithin.top.trans (hband hitems).top,
    fun hitems => (hband hitems).bottom.trans hwithin.bottom, hl.fills⟩
  · rw [hl.left]
    exact hwithin.left
  · rw [hl.left, hl.width]
    exact hwithin.right

theorem clampScroll_bounds {l : TabLayout Rat} {offset scroll : Rat}
    (h : l.clampScroll offset = .ok scroll) : 0 ≤ scroll ∧ scroll ≤ l.maxScroll := by
  have hmax : 0 ≤ l.maxScroll := le_max_right _ _
  unfold clampScroll at h
  split at h
  · exact nomatch h
  next hneg =>
    have hoffset : 0 ≤ offset := not_lt.mp fun hlt => hneg (.inr hlt)
    split at h
    · obtain rfl := Except.ok.inj h
      exact ⟨le_rfl, hmax⟩
    · obtain rfl := Except.ok.inj h
      exact ⟨le_min hoffset hmax, min_le_right _ _⟩

theorem clampScroll_scrollable {l : TabLayout Rat} {offset scroll : Rat}
    (hmode : l.mode = .scrollable) (h : l.clampScroll offset = .ok scroll) :
    scroll = min offset l.maxScroll := by
  unfold clampScroll at h
  rw [hmode] at h
  split at h
  · exact nomatch h
  · exact (Except.ok.inj h).symm

/-- The point lies in the band of the tabs and, once the row is scrolled, on its content. -/
structure OnContent (l : TabLayout Rat) (x y scroll : Rat) : Prop where
  top : l.startY ≤ y
  bottom : y ≤ l.startY + l.tabHeight
  fixed : l.mode = .fixed → l.startX ≤ x ∧ x ≤ l.startX + l.contentWidth
  scrolled : l.mode = .scrollable →
    0 ≤ x - l.startX + scroll ∧ x - l.startX + scroll ≤ l.contentWidth

/-- Content reaches beyond the bounds only where it can be scrolled. -/
theorem Placed.covers {s : TabStyle Rat} {items : List String} {bounds : Rect Rat}
    {l : TabLayout Rat} {x y scroll : Rat} (hl : l.Placed s items bounds) (hitems : items ≠ [])
    (hon : l.OnContent x y scroll) (hscroll : 0 ≤ scroll ∧ scroll ≤ l.maxScroll)
    (hfits : s.mode = .fixed ∨ l.maxScroll ≤ 0) : bounds.Covers x y := by
  have hleft := hl.left
  have hright := hl.right
  have hx : bounds.x ≤ x ∧ x ≤ bounds.right := by
    by_cases hmode : s.mode = .fixed
    · have hfills := hl.fills hitems hmode
      obtain ⟨hstart, hend⟩ := hon.fixed (hl.mode.trans hmode)
      exact ⟨hleft.trans hstart, by linarith⟩
    · have hmax : l.maxScroll ≤ 0 := hfits.resolve_left hmode
      have hcontent : l.contentWidth - l.availableWidth ≤ 0 := (le_max_left _ _).trans hmax
      have hscrollable : l.mode = .scrollable := hl.mode.trans (TabMode.scrollable_of_ne hmode)
      obtain ⟨hstart, hend⟩ := hon.scrolled hscrollable
      have hstill : scroll = 0 := le_antisymm (hscroll.2.trans hmax) hscroll.1
      subst hstill
      constructor <;> linarith
  refine ⟨hx.1, hx.2, (hl.top hitems).trans hon.top, ?_⟩
  exact hon.bottom.trans (hl.bottom hitems)

end TabLayout

namespace TabStyle

variable {s : TabStyle Rat} {measurer : Measurer Rat σ} {items : List String}

theorem ends_widths {available : Rat} {h : σ} :
    Ends (s.widths measurer items available) h fun r _ => ∀ widths, r = .ok widths →
      items ≠ [] → s.mode = .fixed → widths.2 = available := by
  unfold widths
  split
  · refine .of_check (fun width hwidth => ?_) fun _ _ _ hr => nomatch hr
    rintro _ ⟨⟩ hitems -
    exact Row.runLength_evenWidth (List.length_pos_iff.mpr hitems) hwidth
  next hmode =>
    apply (ends_run _ _).imp
    intro _ _ _ _ _ _ hfixed
    exact nomatch hmode.symm.trans hfixed

theorem ends_computeLayout_seated {bounds : Rect Rat} {h : σ} :
    Ends (s.computeLayout measurer items bounds) h fun r _ => ∀ l, r = .ok l →
      (∃ room, l.Seated s items bounds room) ∧
        ∃ h', Ends (s.widths measurer items l.availableWidth) h' fun r' _ =>
          r' = .ok (l.tabWidth, l.contentWidth) := by
  unfold computeLayout
  refine .of_check (fun _ hstyle => ?_) fun _ _ _ hr => nomatch hr
  refine .of_check (fun _ hbounds => ?_) fun _ _ _ hr => nomatch hr
  refine .of_check (fun room hinset => ?_) fun _ _ _ hr => nomatch hr
  have hpositive := positive_of_validate hstyle
  refine (Keeps.of_true _ h trivial).bind (fun extents h₁ _ => ?_) fun _ _ _ _ hr => nomatch hr
  refine .of_check (fun band hband => ?_) fun _ _ _ hr => nomatch hr
  refine ((ends_run _ h₁).and ends_widths).bind ?_ fun _ _ _ _ hr => nomatch hr
  rintro ⟨tabWidth, contentWidth⟩ h₂ ⟨hrun, hwidths⟩
  dsimp only
  split
  · exact fun _ hr => nomatch hr
  rintro l ⟨⟩
  exact ⟨⟨room, hpositive, rfl, rfl, ⟨hinset, fun hcount => Row.amid_of_fitBand hcount hband⟩,
    rfl, rfl, hwidths _ rfl⟩, h₁, congrArg Prod.fst hrun⟩

theorem ends_computeLayout {bounds : Rect Rat} {h : σ} :
    Ends (s.computeLayout measurer items bounds) h fun r _ => ∀ l, r = .ok l →
      l.Placed s items bounds ∧ ∃ h', Ends (s.widths measurer items l.availableWidth) h' fun r' _ =>
        r' = .ok (l.tabWidth, l.contentWidth) := by
  apply ends_computeLayout_seated.imp
  intro r _ hr l hl
  obtain ⟨⟨room, hseated⟩, hwidths⟩ := hr l hl
  exact ⟨hseated.placed, hwidths⟩

/-- Off the content nothing is hit; on it, fixed tabs are searched by division and scrollable ones
along the row. -/
theorem hitTest_cases (s : TabStyle Rat) (measurer : Measurer Rat σ) (items : List String)
    (l : TabLayout Rat) (x y scroll : Rat) :
    ¬(items ≠ [] ∧ l.OnContent x y scroll) ∧ s.hitTest measurer items l x y scroll = pure none ∨
    (items ≠ [] ∧ l.OnContent x y scroll) ∧
      (l.mode = .fixed ∧ s.hitTest measurer items l x y scroll =
          liftExcept (Row.uniformHit (x - l.startX) l.tabWidth l.spacing items.length) ∨
        l.mode = .scrollable ∧ s.hitTest measurer items l x y scroll =
          s.walk measurer l 0 (x - l.startX + scroll) items) := by
  unfold hitTest
  split
  next hempty => exact .inl ⟨fun hon => hon.1 (List.isEmpty_iff.mp hempty), rfl⟩
  next hempty =>
    have hitems : items ≠ [] := fun hitems => hempty (List.isEmpty_iff.mpr hitems)
    split
    next hband =>
      exact .inl ⟨fun hon => hband.elim (not_lt.mpr hon.2.top) (not_lt.mpr hon.2.bottom), rfl⟩
    next hband =>
      obtain ⟨htop, hbottom⟩ := not_or.mp hband
      split
      next hmode =>
        split
        next hx =>
          refine .inl ⟨fun hon => ?_, rfl⟩
          obtain ⟨hstart, hend⟩ := hon.2.fixed hmode
          exact hx.elim (not_lt.mpr hstart) (not_lt.mpr hend)
        next hx =>
          obtain ⟨hstart, hend⟩ := not_or.mp hx
          refine .inr ⟨⟨hitems, not_lt.mp htop, not_lt.mp hbottom, fun _ => ?_,
            fun hscrollable => ?_⟩, .inl ⟨hmode, rfl⟩⟩
          · exact ⟨not_lt.mp hstart, not_lt.mp hend⟩
          · exact nomatch hmode.symm.trans hscrollable
      next hmode =>
        dsimp only
        split
        next hx =>
          refine .inl ⟨fun hon => ?_, rfl⟩
          obtain ⟨hstart, hend⟩ := hon.2.scrolled hmode
          exact hx.elim (not_lt.mpr hstart) (not_lt.mpr hend)
        next hx =>
          obtain ⟨hstart, hend⟩ := not_or.mp hx
          refine .inr ⟨⟨hitems, not_lt.mp htop, not_lt.mp hbottom, fun hfixed => ?_,
            fun _ => ?_⟩, .inr ⟨hmode, rfl⟩⟩
          · exact nomatch hmode.symm.trans hfixed
          · exact ⟨not_lt.mp hstart, not_lt.mp hend⟩

/-- A hit is on the content, whatever the host measures. -/
theorem ends_hitTest {l : TabLayout Rat} {x y scroll : Rat} {h : σ} :
    Ends (s.hitTest measurer items l x y scroll) h fun r _ => ∀ i, r = .ok (some i) →
      items ≠ [] ∧ l.OnContent x y scroll := by
  obtain ⟨-, hnone⟩ | ⟨hon, -⟩ := s.hitTest_cases measurer items l x y scroll
  · rw [hnone]
    exact fun _ hr => nomatch hr
  · exact (ends_run _ _).imp fun _ _ _ _ _ => hon

end TabStyle

end Widgetry
