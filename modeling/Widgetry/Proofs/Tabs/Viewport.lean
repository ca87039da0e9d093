import Widgetry.Proofs.Tabs.Offset
import Widgetry.Proofs.Tiling

/-! Scrolling in exact arithmetic. The offsets that a row can be scrolled to are those at which its
content covers the viewport, and among them is one that shows a given tab as a whole, if the tab
fits. -/
namespace Widgetry

variable {σ : Type}

theorem admissible_iff {offset : Rat} : Admissible offset ↔ 0 ≤ offset := by
  unfold Admissible
  rw [Scalar.rat_isNaN]
  simp

namespace TabLayout

variable {l : TabLayout Rat} {offset offset' scroll : Rat} {a : Rect Rat}

theorem maxScroll_nonneg (l : TabLayout Rat) : 0 ≤ l.maxScroll := le_max_right _ _

theorem le_maxScroll (l : TabLayout Rat) : l.contentWidth - l.availableWidth ≤ l.maxScroll :=
  le_max_left _ _

theorem maxScroll_of_le (hwide : l.availableWidth ≤ l.contentWidth) :
    l.maxScroll = l.contentWidth - l.availableWidth := max_eq_left (sub_nonneg.mpr hwide)

/-- Further on stays further on. -/
theorem clampScroll_mono (hle : offset ≤ offset') (h : l.clampScroll offset = .ok scroll) :
    ∃ scroll', l.clampScroll offset' = .ok scroll' ∧ scroll ≤ scroll' := by
  obtain ⟨hoffset, rfl⟩ := clampScroll_eq_ok.mp h
  have hoffset' := (admissible_iff.mp hoffset).trans hle
  refine ⟨_, clampScroll_eq_ok.mpr ⟨admissible_iff.mpr hoffset', rfl⟩, ?_⟩
  cases l.mode with
  | fixed => exact le_rfl
  | scrollable => exact min_le_min_right _ hle

theorem clampScroll_of_le (hmode : l.mode = .scrollable) (hscroll : 0 ≤ scroll)
    (hmax : scroll ≤ l.maxScroll) : l.clampScroll scroll = .ok scroll := by
  refine clampScroll_eq_ok.mpr ⟨admissible_iff.mpr hscroll, ?_⟩
  rw [hmode]
  exact (min_eq_left hmax).symm

/-- What is clamped needs no more clamping. -/
theorem clampScroll_idem (h : l.clampScroll offset = .ok scroll) :
    l.clampScroll scroll = .ok scroll := by
  obtain ⟨hscroll, hmax⟩ := clampScroll_bounds h
  obtain ⟨-, heq⟩ := clampScroll_eq_ok.mp h
  refine clampScroll_eq_ok.mpr ⟨admissible_iff.mpr hscroll, ?_⟩
  cases hmode : l.mode with
  | fixed =>
    rw [hmode] at heq
    exact heq
  | scrollable => exact (min_eq_left hmax).symm

/-- Offsets show all there is to see and nothing else: `rects` are the tabs at each offset, and the
viewport is the width that the padding leaves. -/
structure Pans (l : TabLayout Rat) (rects : Rat → List (Rect Rat)) : Prop where
  /-- A tab that fits can be seen as a whole. -/
  shows : ∀ (i : Nat) a, (rects 0)[i]? = some a → a.width ≤ l.availableWidth →
    ∃ scroll b, l.clampScroll scroll = .ok scroll ∧ (rects scroll)[i]? = some b ∧
      l.startX ≤ b.x ∧ b.right ≤ l.startX + l.availableWidth
  first : ∀ a, (rects 0).head? = some a → a.x = l.startX
  last : l.availableWidth ≤ l.contentWidth → ∀ a, (rects l.maxScroll).getLast? = some a →
    a.right = l.startX + l.availableWidth
  /-- No offset leaves a part of the viewport without content that could be there. -/
  covered : l.availableWidth ≤ l.contentWidth → ∀ offset scroll,
    l.clampScroll offset = .ok scroll →
      (∀ a, (rects scroll).head? = some a → a.x ≤ l.startX) ∧
        ∀ a, (rects scroll).getLast? = some a → l.startX + l.availableWidth ≤ a.right

section Strip

variable {widths : List Rat} (hmode : l.mode = .scrollable)
  (hproper : ∀ scroll, (l.strip widths scroll).Proper)
  (hreach : ∀ scroll, l.contentWidth = (l.strip widths scroll).reach)
include hmode

theorem first_x (ha : (l.strip widths scroll).rects.head? = some a) : a.x = l.startX - scroll :=
  (Strip.first_x ha).trans (l.origin_scrollable hmode)

include hreach in
theorem last_right (ha : (l.strip widths scroll).rects.getLast? = some a) :
    a.right = l.startX - scroll + l.contentWidth := by
  rw [Strip.last_right ha, l.origin_scrollable hmode, hreach scroll]

include hproper hreach

/-- Scrolled to the start of a tab, or as far as it goes, a row shows the tab. -/
theorem shows_strip {i : Nat} (ha : (l.strip widths 0).rects[i]? = some a)
    (hfits : a.width ≤ l.availableWidth) :
    ∃ scroll b, l.clampScroll scroll = .ok scroll ∧ (l.strip widths scroll).rects[i]? = some b ∧
      l.startX ≤ b.x ∧ b.right ≤ l.startX + l.availableWidth := by
  obtain ⟨w, hw, rfl⟩ := Strip.getElem?_rects.mp ha
  let before := Strip.offset l.spacing widths i
  have hbefore : 0 ≤ before := by
    have hmono := Strip.offset_mono (hproper 0).gap (hproper 0).widths (Nat.zero_le i)
    rwa [Strip.offset_zero] at hmono
  let scroll := min before l.maxScroll
  have hb : (l.strip widths scroll).rects[i]? = some ((l.strip widths scroll).rect i w) :=
    Strip.getElem?_rects.mpr ⟨w, hw, rfl⟩
  have hx : ((l.strip widths scroll).rect i w).x = l.startX - scroll + before := by
    change (l.strip widths scroll).origin + before = _
    rw [l.origin_scrollable hmode]
  have hright : ((l.strip widths scroll).rect i w).right = l.startX - scroll + before + w := by
    rw [Rect.right, hx]
    rfl
  refine ⟨scroll, _, clampScroll_of_le hmode (le_min hbefore l.maxScroll_nonneg)
    (min_le_right _ _), hb, ?_, ?_⟩
  · rw [hx]
    linarith [min_le_left before l.maxScroll]
  · obtain hscroll | hscroll : scroll = before ∨ scroll = l.maxScroll := min_choice _ _
    · change w ≤ l.availableWidth at hfits
      rw [hright]
      linarith
    · obtain ⟨-, hend⟩ := (hproper scroll).bounds hb
      rw [← hreach, l.origin_scrollable hmode] at hend
      linarith [l.le_maxScroll]

theorem pans_strip : l.Pans fun scroll => (l.strip widths scroll).rects where
  shows i a := shows_strip hmode hproper hreach
  first a ha := by rw [first_x hmode ha, sub_zero]
  last hwide a ha := by
    rw [last_right hmode hreach ha, maxScroll_of_le hwide]
    linarith
  covered hwide offset scroll hscroll := by
    obtain ⟨hpos, hle⟩ := clampScroll_bounds hscroll
    rw [maxScroll_of_le hwide] at hle
    constructor
    · intro a ha
      rw [first_x hmode ha]
      linarith
    · intro a ha
      rw [last_right hmode hreach ha]
      linarith

end Strip

end TabLayout

/-- Whatever labels measure, as long as they measure alike at any time: a scrollable row pans over
its tabs, at the offsets that clamping answers with. Clamping keeps the order of offsets and needs
to be done but once, in any layout. -/
theorem TabStyle.scroll_range_exact {s : TabStyle Rat} {measurer : Measurer Rat σ}
    (hm : ∀ text, Steady (measurer text)) {items : List String} (hitems : items ≠ [])
    {bounds : Rect Rat} {l : TabLayout Rat} {h h' : σ} (hmode : l.mode = .scrollable)
    (hrun : (s.computeLayout measurer items bounds).run h = (.ok l, h')) :
    (∃ rects : Rat → List (Rect Rat),
      (∀ scroll, (rects scroll).length = items.length ∧ ∀ (i : Nat) rect,
        (rects scroll)[i]? = some rect → Returns (s.itemRect measurer items l i scroll) rect) ∧
      l.Pans rects) ∧
    (∀ (any : TabLayout Rat) (offset offset' scroll : Rat), offset ≤ offset' →
      any.clampScroll offset = .ok scroll →
      ∃ scroll', any.clampScroll offset' = .ok scroll' ∧ scroll ≤ scroll') ∧
    ∀ (any : TabLayout Rat) (offset scroll : Rat), any.clampScroll offset = .ok scroll →
      any.clampScroll scroll = .ok scroll := by
  obtain ⟨room, hl, widths, hw, hreach⟩ := s.lines_of_run (fun _ => hm) hrun
  refine ⟨⟨fun scroll => (l.strip widths scroll).rects, fun scroll => ⟨?_, fun i rect hrect => ?_⟩,
    TabLayout.pans_strip hmode (proper_strip hl.placed hw) (hreach hitems)⟩,
    fun _ _ _ _ => TabLayout.clampScroll_mono, fun _ _ _ => TabLayout.clampScroll_idem⟩
  · rw [Strip.length_rects]
    exact hw.length
  · exact returns_itemRect hl.placed hw hrect

/-- Each of three tabs fits into the viewport of 200, but the row does not: it scrolls by 190. -/
theorem TabStyle.scroll_range_exact_padded :
    (∀ text, Steady (longLabels text)) ∧ sectionLabels ≠ [] ∧ paddedLayout.mode = .scrollable ∧
    (paddedTabs.computeLayout longLabels sectionLabels ⟨10, 20, 208, 68⟩).run () =
      (.ok paddedLayout, ()) ∧
    paddedLayout.maxScroll = 190 ∧ paddedLayout.clampScroll 400 = .ok 190 ∧
    paddedLayout.clampScroll 190 = .ok 190 ∧
    ∃ rects : Rat → List (Rect Rat), (∀ scroll, (rects scroll).length = 3) ∧
      paddedLayout.Pans rects := by
  obtain ⟨⟨rects, hrects, hpans⟩, -, hidem⟩ :=
    TabStyle.scroll_range_exact steady_longLabels (show sectionLabels ≠ [] by decide)
      (show paddedLayout.mode = .scrollable from rfl) padded_run
  have hclamp : paddedLayout.clampScroll 400 = .ok 190 := by decide +kernel
  exact ⟨steady_longLabels, by decide, rfl, padded_run, by decide +kernel, hclamp,
    hidem paddedLayout 400 190 hclamp, rects, fun scroll => (hrects scroll).1, hpans⟩

end Widgetry
