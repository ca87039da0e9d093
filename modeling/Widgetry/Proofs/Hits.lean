import Widgetry.Proofs.Segmented.Hits
import Widgetry.Proofs.Tabs.Hits

/-! Hit tests against rectangles, in exact arithmetic. A hit test of tabs or of segments gives back
what their rectangles say, off the edges. On the edges it does so too, but for those that its search
loses. -/
namespace Widgetry

variable {σ : Type}

/-- Whatever the labels measure, as long as those of scrollable tabs measure alike at any time: a
hit test finds the item that the point is on, and none beside the items and between them. -/
theorem hits_invert_rects (measurer : Measurer Rat σ) (items : List String) (bounds : Rect Rat)
    (h h' : σ) :
    (∀ (s : TabStyle Rat) (l : TabLayout Rat) (scroll : Rat),
      (s.mode = .scrollable → ∀ text, Steady (measurer text)) →
      (s.computeLayout measurer items bounds).run h = (.ok l, h') →
      ∃ rects : List (Rect Rat), rects.length = items.length ∧
        (∀ (i : Nat) rect, rects[i]? = some rect →
          Returns (s.itemRect measurer items l i scroll) rect) ∧
        ∀ x y h, Inverts rects x y ((s.hitTest measurer items l x y scroll).run h).1) ∧
    ∀ (s : SegmentStyle Rat) (l : SegmentLayout Rat),
      (s.computeLayout measurer items bounds).run h = (.ok l, h') →
      ∃ rects : List (Rect Rat), rects.length = items.length ∧
        (∀ (i : Nat) rect, rects[i]? = some rect → l.segmentRect i = .ok rect) ∧
        ∀ x y, Inverts rects x y (l.hitTest items.length x y) := by
  constructor
  · intro s l scroll hm hrun
    obtain ⟨t, ht, -, hlength, hrects, hpicks⟩ := s.strip_of_run hm hrun scroll
    exact ⟨t.rects, hlength, hrects, fun x y h => (hpicks x y h).inverts ht⟩
  · intro s l hrun
    obtain ⟨t, ht, -, hlength, hrects, hpicks⟩ := s.strip_of_run hrun
    exact ⟨t.rects, hlength, hrects, fun x y => (hpicks x y).inverts ht⟩

/-- Whatever the text, its metrics are the same. -/
def evenLabels : Measurer Rat Unit := fun _ => pure ⟨40, 16, 12⟩

theorem steady_evenLabels (text : String) : Steady (evenLabels text) := fun _ _ => rfl

def spacedTabs : TabStyle Rat := { TabStyle.scrollable with spacing := 8 }

/-- Two tabs of 90 with a gap of 8. -/
def spacedLayout : TabLayout Rat := ⟨.scrollable, 0, 0, 0, 48, 8, 188, 48, 100, 48⟩

theorem spaced_run :
    (spacedTabs.computeLayout evenLabels ["Home", "Library"] ⟨0, 0, 100, 48⟩).run () =
      (.ok spacedLayout, ()) := run_unit (by decide +kernel)

theorem spaced_rect {i : Nat} (hi : i < 2) :
    (spacedTabs.itemRect evenLabels ["Home", "Library"] spacedLayout i 0).run () =
      (.ok ⟨98 * i, 0, 90, 48⟩, ()) := by
  obtain rfl | rfl : i = 0 ∨ i = 1 := by omega
  · exact run_unit (by decide +kernel)
  · exact run_unit (by decide +kernel)

theorem hits_invert_rects_scrolled :
    (spacedTabs.mode = .scrollable ∧ ∀ text, Steady (evenLabels text)) ∧
    (spacedTabs.computeLayout evenLabels ["Home", "Library"] ⟨0, 0, 100, 48⟩).run () =
      (.ok spacedLayout, ()) ∧
    ∃ rects : List (Rect Rat), rects.length = 2 ∧ Inverts rects 70 24 (.ok (some 1)) := by
  obtain ⟨rects, hlength, -, hinverts⟩ := (hits_invert_rects evenLabels ["Home", "Library"]
    ⟨0, 0, 100, 48⟩ () ()).1 spacedTabs spacedLayout 30 (fun _ => steady_evenLabels) spaced_run
  have hhit : (spacedTabs.hitTest evenLabels ["Home", "Library"] spacedLayout 70 24 30).run () =
      (.ok (some 1), ()) := run_unit (by decide +kernel)
  have hinverts := hinverts 70 24 ()
  rw [hhit] at hinverts
  exact ⟨⟨rfl, steady_evenLabels⟩, spaced_run, rects, hlength, hinverts⟩

/-- Where every item has a width, a point on an edge is on an item that is found, except on the
right edge of the last one of items that a division finds and that touch, and on the left edge of
those that a walk comes to behind a gap. -/
theorem edges_hit (measurer : Measurer Rat σ) (items : List String) (bounds : Rect Rat)
    (h h' : σ) :
    (∀ (s : TabStyle Rat) (l : TabLayout Rat) (scroll : Rat),
      (s.mode = .scrollable → ∀ text, Steady (measurer text)) →
      (s.computeLayout measurer items bounds).run h = (.ok l, h') →
      ∃ rects : List (Rect Rat), rects.length = items.length ∧
        (∀ (i : Nat) rect, rects[i]? = some rect →
          Returns (s.itemRect measurer items l i scroll) rect) ∧
        ((∀ rect ∈ rects, 0 < rect.width) → ∀ x y h, Inclusive s.mode.search s.spacing rects x y
          ((s.hitTest measurer items l x y scroll).run h).1)) ∧
    ∀ (s : SegmentStyle Rat) (l : SegmentLayout Rat),
      (s.computeLayout measurer items bounds).run h = (.ok l, h') →
      ∃ rects : List (Rect Rat), rects.length = items.length ∧
        (∀ (i : Nat) rect, rects[i]? = some rect → l.segmentRect i = .ok rect) ∧
        ((∀ rect ∈ rects, 0 < rect.width) → ∀ x y,
          Inclusive .stride s.spacing rects x y (l.hitTest items.length x y)) := by
  constructor
  · intro s l scroll hm hrun
    obtain ⟨t, ht, hgap, hlength, hrects, hpicks⟩ := s.strip_of_run hm hrun scroll
    refine ⟨t.rects, hlength, hrects, fun hwidth x y h => ?_⟩
    rw [← hgap]
    exact Strip.Picks.inclusive ht (fun i a ha => hwidth a (List.mem_of_getElem? ha)) (hpicks x y h)
  · intro s l hrun
    obtain ⟨t, ht, hgap, hlength, hrects, hpicks⟩ := s.strip_of_run hrun
    refine ⟨t.rects, hlength, hrects, fun hwidth x y => ?_⟩
    rw [← hgap]
    exact Strip.Picks.inclusive ht (fun i a ha => hwidth a (List.mem_of_getElem? ha)) (hpicks x y)

theorem edges_hit_spaced :
    (spacedTabs.mode = .scrollable ∧ ∀ text, Steady (evenLabels text)) ∧
    (spacedTabs.computeLayout evenLabels ["Home", "Library"] ⟨0, 0, 100, 48⟩).run () =
      (.ok spacedLayout, ()) ∧
    ∃ rects : List (Rect Rat), rects.length = 2 ∧ (∀ rect ∈ rects, 0 < rect.width) ∧
      Inclusive .walk 8 rects 90 24 (.ok (some 0)) := by
  obtain ⟨rects, hlength, hrects, hinclusive⟩ := (edges_hit evenLabels ["Home", "Library"]
    ⟨0, 0, 100, 48⟩ () ()).1 spacedTabs spacedLayout 0 (fun _ => steady_evenLabels) spaced_run
  have hwidth : ∀ rect ∈ rects, 0 < rect.width := by
    intro rect hmem
    obtain ⟨i, hi⟩ := List.mem_iff_getElem?.mp hmem
    have hlt := (List.getElem?_eq_some_iff.mp hi).1
    rw [hlength] at hlt
    have hrect := (ends_of_run (spaced_rect hlt)).mp (hrects i rect hi ())
    obtain rfl := Except.ok.inj hrect
    change (0 : Rat) < 90
    decide
  have hhit : (spacedTabs.hitTest evenLabels ["Home", "Library"] spacedLayout 90 24 0).run () =
      (.ok (some 0), ()) := run_unit (by decide +kernel)
  have hinclusive := hinclusive hwidth 90 24 ()
  rw [hhit] at hinclusive
  exact ⟨⟨rfl, steady_evenLabels⟩, spaced_run, rects, hlength, hwidth, hinclusive⟩

/-- Two fixed tabs of 100 that touch. -/
def touchingLayout : TabLayout Rat := ⟨.fixed, 0, 0, 100, 48, 0, 200, 48, 200, 48⟩

/-- Two segments of 100 that touch. -/
def touchingSegments : SegmentLayout Rat := ⟨0, 8, 100, 32, 0, 200, 32⟩

/-- The right edge of what comes last, where items touch, and the left edge of a tab behind a gap:
each is an edge of an item, and no item is found on it. -/
theorem edges_missed :
    ((TabStyle.default.computeLayout evenLabels ["Home", "Library"] ⟨0, 0, 200, 48⟩).run () =
        (.ok touchingLayout, ()) ∧
      (TabStyle.default.itemRect evenLabels ["Home", "Library"] touchingLayout 1 0).run () =
        (.ok ⟨100, 0, 100, 48⟩, ()) ∧
      (⟨100, 0, 100, 48⟩ : Rect Rat).Covers 200 24 ∧
      (TabStyle.default.hitTest evenLabels ["Home", "Library"] touchingLayout 200 24 0).run () =
        (.ok none, ())) ∧
    ((SegmentStyle.default.computeLayout evenLabels ["Home", "Library"] ⟨0, 0, 200, 48⟩).run () =
        (.ok touchingSegments, ()) ∧
      touchingSegments.segmentRect 1 = .ok ⟨100, 8, 100, 32⟩ ∧
      (⟨100, 8, 100, 32⟩ : Rect Rat).Covers 200 24 ∧
      touchingSegments.hitTest 2 200 24 = .ok none) ∧
    (spacedTabs.computeLayout evenLabels ["Home", "Library"] ⟨0, 0, 100, 48⟩).run () =
        (.ok spacedLayout, ()) ∧
      (spacedTabs.itemRect evenLabels ["Home", "Library"] spacedLayout 1 0).run () =
        (.ok ⟨98, 0, 90, 48⟩, ()) ∧
      (⟨98, 0, 90, 48⟩ : Rect Rat).Covers 98 24 ∧
      (spacedTabs.hitTest evenLabels ["Home", "Library"] spacedLayout 98 24 0).run () =
        (.ok none, ()) := by
  refine ⟨⟨run_unit ?_, run_unit ?_, ?_, run_unit ?_⟩, ⟨run_unit ?_, ?_, ?_, ?_⟩, spaced_run,
    run_unit ?_, ?_, run_unit ?_⟩
  all_goals decide +kernel

end Widgetry
