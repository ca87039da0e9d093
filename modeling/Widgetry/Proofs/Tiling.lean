import Widgetry.Monospace
import Widgetry.Proofs.Geometry.Tiling
import Widgetry.Proofs.Segmented.Hits
import Widgetry.Proofs.Tabs.Hits

/-! The items of a laid-out row in exact arithmetic. Tabs and segments tile as much of the row as
the layout says its content takes, in one band in the middle of the room that the padding leaves.
Where they share the width of that room, none leaves it. -/
namespace Widgetry

variable {σ : Type}

namespace TabStyle

variable {s : TabStyle Rat} {measurer : Measurer Rat σ} {items : List String}
  {l : TabLayout Rat} {bounds room : Rect Rat} {widths : List Rat} {scroll : Rat}
  (hl : l.Seated s items bounds room) (hw : TabLayout.Lines s measurer items widths l.tabWidth)
  (hreach : l.contentWidth = (l.strip widths scroll).reach)
include hl hw hreach

theorem tiles_strip : Tiles (l.strip widths scroll).origin s.spacing l.contentWidth
    (l.strip widths scroll).rects := by
  rw [hreach, ← hl.spacing]
  exact (proper_strip hl.placed hw scroll).tiles

theorem fills_strip (hitems : items ≠ []) (hmode : s.mode = .fixed) :
    Fills room l.contentWidth (l.strip widths scroll).rects := by
  have hwidth := (hl.fills hitems hmode).trans hl.width
  rw [hreach] at hwidth ⊢
  refine (proper_strip hl.placed hw scroll).fills ?_ hwidth
    (hl.seat.amid (List.length_pos_iff.mpr hitems))
  exact (l.origin_fixed (hl.mode.trans hmode)).trans hl.left

omit hl hreach in
theorem minWidth_le_strip (h : σ) (hmode : s.mode = .scrollable) :
    ∀ a ∈ (l.strip widths scroll).rects, s.minWidth ≤ a.width := by
  intro a ha
  obtain ⟨i, ha⟩ := List.mem_iff_getElem?.mp ha
  obtain ⟨w, hmem, rfl⟩ := Strip.getElem?_rects.mp ha
  exact (hw.sized hmode).minWidth_le h w (List.mem_of_getElem? hmem)

end TabStyle

/-- Whatever the labels measure, as long as those of scrollable tabs measure alike at any time: the
items tile the content, in one band. Scrolling moves all of them alike. -/
theorem items_tile (measurer : Measurer Rat σ) (items : List String) (hitems : items ≠ [])
    (bounds : Rect Rat) (h h' : σ) :
    (∀ (s : TabStyle Rat) (l : TabLayout Rat) (scroll : Rat),
      (s.mode = .scrollable → ∀ text, Steady (measurer text)) →
      (s.computeLayout measurer items bounds).run h = (.ok l, h') →
      ∃ (room : Rect Rat) (rects : List (Rect Rat)),
        bounds.inset s.padding = .ok room ∧ rects.length = items.length ∧
        (∀ (i : Nat) rect, rects[i]? = some rect →
          Returns (s.itemRect measurer items l i scroll) rect) ∧
        Banded room ⟨l.startY, l.tabHeight⟩ rects ∧
        match s.mode with
        | .fixed => Tiles l.startX s.spacing l.contentWidth rects ∧ Fills room l.contentWidth rects
        | .scrollable => Tiles (l.startX - scroll) s.spacing l.contentWidth rects ∧
            ∀ rect ∈ rects, s.minWidth ≤ rect.width) ∧
    ∀ (s : SegmentStyle Rat) (l : SegmentLayout Rat),
      (s.computeLayout measurer items bounds).run h = (.ok l, h') →
      ∃ (room : Rect Rat) (rects : List (Rect Rat)),
        bounds.inset s.padding = .ok room ∧ rects.length = items.length ∧
        (∀ (i : Nat) rect, rects[i]? = some rect → l.segmentRect i = .ok rect) ∧
        Banded room ⟨l.startY, l.segmentHeight⟩ rects ∧
        Tiles l.startX s.spacing l.contentWidth rects ∧ Fills room l.contentWidth rects := by
  have hcount : 0 < items.length := List.length_pos_iff.mpr hitems
  constructor
  · intro s l scroll hm hrun
    obtain ⟨room, hl, widths, hw, hreach⟩ := s.lines_of_run hm hrun
    have hreach := hreach hitems scroll
    have htiles := TabStyle.tiles_strip hl hw hreach
    refine ⟨room, (l.strip widths scroll).rects, hl.seat.inset, ?_, fun i rect hrect => ?_,
      Strip.banded (t := l.strip widths scroll) (hl.seat.amid hcount), ?_⟩
    · rw [Strip.length_rects]
      exact hw.length
    · exact TabStyle.returns_itemRect hl.placed hw hrect
    split
    next hmode =>
      rw [l.origin_fixed (hl.mode.trans hmode)] at htiles
      exact ⟨htiles, TabStyle.fills_strip hl hw hreach hitems hmode⟩
    next hmode =>
      rw [l.origin_scrollable (hl.mode.trans hmode)] at htiles
      exact ⟨htiles, TabStyle.minWidth_le_strip hw h hmode⟩
  · intro s l hrun
    obtain ⟨⟨room, hl⟩, hproper, hreach, hrects⟩ := s.proper_of_run hrun
    have hband := hl.seat.amid hcount
    have hwidth := hl.fills hitems
    have htiles := hproper.tiles
    rw [hreach hcount] at hwidth ⊢
    rw [← hl.spacing]
    refine ⟨room, (l.strip items.length).rects, hl.seat.inset, ?_, hrects,
      Strip.banded (t := l.strip items.length) hband, htiles, hproper.fills hl.left hwidth hband⟩
    rw [Strip.length_rects]
    exact List.length_replicate

def sectionLabels : List String := ["Home", "Notifications", "Downloads"]

/-- Every letter is 10 wide. -/
def longLabels : Measurer Rat Unit := fun text => pure (Monospace.metrics 20 text)

theorem steady_longLabels (text : String) : Steady (longLabels text) := fun _ _ => rfl

def paddedTabs : TabStyle Rat := { TabStyle.scrollable with spacing := 8, padding := .all 4 }

/-- Tabs of 90, 162 and 122 with gaps of 8, in a room that is 12 too high for them. -/
def paddedLayout : TabLayout Rat := ⟨.scrollable, 14, 30, 0, 48, 8, 390, 48, 200, 60⟩

theorem padded_run :
    (paddedTabs.computeLayout longLabels sectionLabels ⟨10, 20, 208, 68⟩).run () =
      (.ok paddedLayout, ()) := run_unit (by decide +kernel)

theorem items_tile_scrolled :
    (sectionLabels ≠ [] ∧ ∀ text, Steady (longLabels text)) ∧
    (paddedTabs.computeLayout longLabels sectionLabels ⟨10, 20, 208, 68⟩).run () =
      (.ok paddedLayout, ()) ∧
    ∃ rects : List (Rect Rat), rects.length = 3 ∧ Banded ⟨14, 24, 200, 60⟩ ⟨30, 48⟩ rects ∧
      Tiles (14 - 30) 8 390 rects ∧ ∀ rect ∈ rects, 90 ≤ rect.width := by
  obtain ⟨room, rects, hroom, hlength, -, hband, htiles, hwidth⟩ :=
    (items_tile longLabels sectionLabels (by decide) _ () ()).1 paddedTabs paddedLayout 30
      (fun _ => steady_longLabels) padded_run
  have hinset : (⟨10, 20, 208, 68⟩ : Rect Rat).inset paddedTabs.padding =
      .ok ⟨14, 24, 200, 60⟩ := by decide +kernel
  obtain rfl := Except.ok.inj (hroom.symm.trans hinset)
  exact ⟨⟨by decide, steady_longLabels⟩, padded_run, rects, hlength, hband, htiles, hwidth⟩

end Widgetry
