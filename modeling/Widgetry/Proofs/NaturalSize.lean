import Widgetry.Proofs.Geometry.Natural
import Widgetry.Proofs.Tiling

/-! Rows in bounds of the size they ask for, in exact arithmetic. Such bounds are laid out, and
nothing in them is clipped, squeezed or scrolled: laying out takes apart what measuring has put
together. -/
namespace Widgetry

variable {σ : Type} {measurer : Measurer Rat σ} {metrics : String → TextMetrics Rat}
  {items : List String}

section

variable (hm : ∀ text, Returns (measurer text) (metrics text))

namespace TabStyle

variable {s : TabStyle Rat} (hs : s.validate false = .ok ())

theorem padded_nonneg (hs : s.Positive) (content : Rat) :
    0 ≤ Row.padded content s.paddingX s.minWidth :=
  hs.minWidth.trans (Row.minimum_le_padded _ _ _)

/-- A fixed tab needs no measuring. -/
theorem returns_fixedRect {l : TabLayout Rat} (hmode : l.mode = .fixed) {i : Nat}
    (hi : i < items.length) (hwidth : 0 ≤ l.tabWidth) (hheight : 0 ≤ l.tabHeight) (scroll : Rat) :
    Returns (s.itemRect measurer items l i scroll)
      ⟨l.startX + l.fixedOffset i, l.startY, l.tabWidth, l.tabHeight⟩ := by
  unfold itemRect itemSpan
  rw [List.getElem?_eq_getElem hi, hmode]
  dsimp only
  rw [pure_bind, if_neg (not_or.mpr ⟨not_lt.mpr hwidth, not_lt.mpr hheight⟩)]
  exact .pure _

include hm hs

/-- The width that a row asks for inside its padding is the one that its tabs take there. -/
theorem returns_measureContent (hitems : items ≠ []) :
    ∃ content tabWidth : Rat, 0 ≤ content ∧ 0 ≤ tabWidth ∧
      Returns (s.measureContent measurer items) ⟨content + s.padding.horizontal,
        s.bandHeight (.ofMetrics metrics items) + s.padding.vertical⟩ ∧
      Returns (s.widths measurer items content) (tabWidth, content) ∧
      (s.mode = .fixed → tabWidth =
        Row.padded (LabelExtents.ofMetrics metrics items).width s.paddingX s.minWidth) := by
  have hpositive := positive_of_validate hs
  have hcount : 0 < items.length := List.length_pos_iff.mpr hitems
  have hmeasure := LabelExtents.returns_measure hm items
  unfold measureContent widths
  cases hmode : s.mode with
  | fixed =>
    have hwidth := padded_nonneg hpositive (LabelExtents.ofMetrics metrics items).width
    refine ⟨_, _, Row.runLength_nonneg hcount hwidth hpositive.spacing, hwidth, ?_, ?_,
      fun _ => rfl⟩
    · exact (Returns.check hs).bind (hmeasure.bind (.pure _))
    · exact (Returns.check (Row.evenWidth_runLength hcount hwidth)).bind (.pure _)
  | scrollable =>
    obtain ⟨widths, hsized, hmin⟩ := exists_sized (s := s) hm items
    let t : Strip := ⟨0, 0, 0, s.spacing, widths⟩
    have ht : t.Proper := ⟨hpositive.spacing, fun w hw => hpositive.minWidth.trans (hmin w hw)⟩
    have hcontent : 0 ≤ t.reach := ht.reach_nonneg (by
      rintro rfl
      exact hitems (List.length_eq_zero_iff.mp hsized.length_eq))
    have hrun := returns_scrollableRun hsized hitems 0
    rw [zero_add] at hrun
    refine ⟨_, 0, hcontent, le_rfl, ?_, hrun.bind (.pure _), nofun⟩
    exact (Returns.check hs).bind (hmeasure.bind (hrun.bind (.pure _)))

theorem returns_computeLayout_around {content tabWidth : Rat} (hcontent : 0 ≤ content)
    (hnatural : 0 < s.bandHeight (.ofMetrics metrics items))
    (hwidths : Returns (s.widths measurer items content) (tabWidth, content)) (x y : Rat) :
    Returns (s.computeLayout measurer items
        (.around s.padding x y content (s.bandHeight (.ofMetrics metrics items))))
      { mode := s.mode
        startX := x + s.padding.left
        startY := y + s.padding.top
        tabWidth
        tabHeight := s.bandHeight (.ofMetrics metrics items)
        spacing := s.spacing
        contentWidth := content
        contentHeight := s.bandHeight (.ofMetrics metrics items)
        availableWidth := content
        availableHeight := s.bandHeight (.ofMetrics metrics items) } := by
  have hpadding := (positive_of_validate hs).padding
  unfold computeLayout
  refine (Returns.check hs).bind ?_
  refine (Returns.check (Rect.validate_around hpadding hcontent hnatural.le x y)).bind ?_
  refine (Returns.check (Rect.inset_around hcontent hnatural.le x y)).bind ?_
  refine (LabelExtents.returns_measure hm items).bind ?_
  refine (Returns.check (Row.fitBand_natural hnatural _ _)).bind ?_
  refine hwidths.bind ?_
  dsimp only
  rw [if_neg (not_lt.mpr hcontent)]
  exact .pure _

/-- In bounds of the size it asks for, a row keeps the height of its band and the widths of its
tabs. -/
theorem exists_natural_layout (hitems : items ≠ [])
    (hnatural : 0 < s.bandHeight (.ofMetrics metrics items)) (x y : Rat) :
    ∃ (size : Size Rat) (l : TabLayout Rat), Returns (s.measureContent measurer items) size ∧
      Returns (s.computeLayout measurer items ⟨x, y, size.width, size.height⟩) l ∧
      l.startY = y + s.padding.top ∧ l.tabHeight = s.bandHeight (.ofMetrics metrics items) ∧
      match s.mode with
      | .fixed => ∀ i < items.length, ∀ scroll, ∃ rect,
          Returns (s.itemRect measurer items l i scroll) rect ∧ rect.width =
            Row.padded (LabelExtents.ofMetrics metrics items).width s.paddingX s.minWidth
      | .scrollable => l.contentWidth = l.availableWidth ∧ l.maxScroll = 0 := by
  obtain ⟨content, tabWidth, hcontent, hwidth, hmeasured, hwidths, hfixed⟩ :=
    returns_measureContent hm hs hitems
  refine ⟨_, _, hmeasured, returns_computeLayout_around hm hs hcontent hnatural hwidths x y, rfl,
    rfl, ?_⟩
  split
  next hmode =>
    intro i hi scroll
    refine ⟨_, returns_fixedRect hmode hi ?_ ?_ scroll, hfixed hmode⟩
    · exact hwidth
    · exact hnatural.le
  next => exact ⟨rfl, max_eq_right (sub_self content).le⟩

end TabStyle

namespace SegmentStyle

variable {s : SegmentStyle Rat} (hs : s.validate false = .ok ())
include hs

theorem minWidth_nonneg : 0 ≤ s.minWidth := by
  obtain ⟨_, hlengths, -⟩ := Validate.bind_eq_ok.mp hs
  exact Validate.nonNegative_eq_ok.mp hlengths (s.minWidth, "segment min width is negative")
    (by simp [lengths])

include hm

theorem returns_computeLayout_around {width : Rat} (hcount : 0 < items.length) (hwidth : 0 ≤ width)
    (hnatural : 0 < s.bandHeight (.ofMetrics metrics items)) (x y : Rat) :
    Returns (s.computeLayout measurer items
        (.around s.padding x y (Row.runLength width s.spacing items.length)
          (s.bandHeight (.ofMetrics metrics items))))
      { startX := x + s.padding.left
        startY := y + s.padding.top
        segmentWidth := width
        segmentHeight := s.bandHeight (.ofMetrics metrics items)
        spacing := s.spacing
        contentWidth := Row.runLength width s.spacing items.length
        contentHeight := s.bandHeight (.ofMetrics metrics items) } := by
  have hpositive := positive_of_validate hs
  have hcontent := Row.runLength_nonneg hcount hwidth hpositive.spacing
  unfold computeLayout
  refine (Returns.check hs).bind ?_
  refine (Returns.check (Rect.validate_around hpositive.padding hcontent hnatural.le x y)).bind ?_
  refine (Returns.check (Rect.inset_around hcontent hnatural.le x y)).bind ?_
  refine (LabelExtents.returns_measure hm items).bind ?_
  refine (Returns.check (Row.fitBand_natural hnatural _ _)).bind ?_
  exact (Returns.check (Row.evenWidth_runLength hcount hwidth)).bind (.pure _)

/-- In bounds of the size it asks for, a group keeps the height of its band and the widths of its
segments. -/
theorem exists_natural_layout (hitems : items ≠ [])
    (hnatural : 0 < s.bandHeight (.ofMetrics metrics items)) (x y : Rat) :
    ∃ (size : Size Rat) (l : SegmentLayout Rat), Returns (s.measureContent measurer items) size ∧
      Returns (s.computeLayout measurer items ⟨x, y, size.width, size.height⟩) l ∧
      l.startY = y + s.padding.top ∧ l.segmentHeight = s.bandHeight (.ofMetrics metrics items) ∧
      ∀ i < items.length, ∃ rect, l.segmentRect i = .ok rect ∧ rect.width =
        Row.padded (LabelExtents.ofMetrics metrics items).width s.paddingX s.minWidth := by
  have hwidth : 0 ≤ Row.padded (LabelExtents.ofMetrics metrics items).width s.paddingX s.minWidth :=
    (minWidth_nonneg hs).trans (Row.minimum_le_padded _ _ _)
  have hmeasure := LabelExtents.returns_measure hm items
  have hlayout := returns_computeLayout_around hm hs (List.length_pos_iff.mpr hitems) hwidth
    hnatural x y
  unfold measureContent
  refine ⟨_, _, (Returns.check hs).bind (hmeasure.bind (.pure _)), hlayout, rfl, rfl,
    fun i _ => ⟨_, if_neg ?_, rfl⟩⟩
  exact not_or.mpr ⟨not_lt.mpr hwidth, not_lt.mpr hnatural.le⟩

end SegmentStyle

end

/-- Whatever labels measure, as long as they always measure alike: the widest of them decides how
wide fixed tabs and segments are, and in bounds of the size that a row asks for, every item has its
natural size. -/
theorem measured_fits (hm : ∀ text, Returns (measurer text) (metrics text)) (items : List String)
    (hitems : items ≠ []) (x y : Rat) :
    (IsGreatest (insert 0 {w | ∃ item ∈ items, item ≠ "" ∧ (metrics item).width = w})
        (LabelExtents.ofMetrics metrics items).width ∧
      IsGreatest (insert 0 {h | ∃ item ∈ items, item ≠ "" ∧ (metrics item).height = h})
        (LabelExtents.ofMetrics metrics items).height) ∧
    (∀ s : TabStyle Rat, s.validate false = .ok () →
      0 < s.bandHeight (.ofMetrics metrics items) →
      ∃ (size : Size Rat) (l : TabLayout Rat), Returns (s.measureContent measurer items) size ∧
        Returns (s.computeLayout measurer items ⟨x, y, size.width, size.height⟩) l ∧
        l.startY = y + s.padding.top ∧ l.tabHeight = s.bandHeight (.ofMetrics metrics items) ∧
        match s.mode with
        | .fixed => ∀ i < items.length, ∀ scroll, ∃ rect,
            Returns (s.itemRect measurer items l i scroll) rect ∧ rect.width =
              Row.padded (LabelExtents.ofMetrics metrics items).width s.paddingX s.minWidth
        | .scrollable => l.contentWidth = l.availableWidth ∧ l.maxScroll = 0) ∧
    ∀ s : SegmentStyle Rat, s.validate false = .ok () →
      0 < s.bandHeight (.ofMetrics metrics items) →
      ∃ (size : Size Rat) (l : SegmentLayout Rat), Returns (s.measureContent measurer items) size ∧
        Returns (s.computeLayout measurer items ⟨x, y, size.width, size.height⟩) l ∧
        l.startY = y + s.padding.top ∧ l.segmentHeight = s.bandHeight (.ofMetrics metrics items) ∧
        ∀ i < items.length, ∃ rect, l.segmentRect i = .ok rect ∧ rect.width =
          Row.padded (LabelExtents.ofMetrics metrics items).width s.paddingX s.minWidth :=
  ⟨⟨LabelExtents.isGreatest_extent rfl (fun _ _ => rfl) metrics items,
      LabelExtents.isGreatest_extent rfl (fun _ _ => rfl) metrics items⟩,
    fun _ hs hnatural => TabStyle.exists_natural_layout hm hs hitems hnatural x y,
    fun _ hs hnatural => SegmentStyle.exists_natural_layout hm hs hitems hnatural x y⟩

def fixedTabs : TabStyle Rat := { paddedTabs with mode := .fixed }

/-- The longest of three labels is 130 wide, so three fixed tabs ask for 162 each. -/
theorem measured_fits_longest :
    (∀ text, Returns (longLabels text) (Monospace.metrics 20 text)) ∧ sectionLabels ≠ [] ∧
    fixedTabs.validate false = .ok () ∧
    0 < fixedTabs.bandHeight (.ofMetrics (Monospace.metrics 20) sectionLabels) ∧
    ∃ l : TabLayout Rat, l.startY = 24 ∧ l.tabHeight = 48 ∧
      Returns (fixedTabs.computeLayout longLabels sectionLabels ⟨10, 20, 510, 56⟩) l ∧
      ∃ rect, Returns (fixedTabs.itemRect longLabels sectionLabels l 1 0) rect ∧
        rect.width = 162 := by
  have hm (text : String) : Returns (longLabels text) (Monospace.metrics 20 text) := .pure _
  have hvalid : fixedTabs.validate false = .ok () := by decide +kernel
  have hheight : fixedTabs.bandHeight (.ofMetrics (Monospace.metrics 20) sectionLabels) = 48 := by
    decide +kernel
  have hwidth : Row.padded (LabelExtents.ofMetrics (Monospace.metrics (20 : Rat))
      sectionLabels).width fixedTabs.paddingX fixedTabs.minWidth = 162 := by
    decide +kernel
  have hnatural : 0 < fixedTabs.bandHeight (.ofMetrics (Monospace.metrics 20) sectionLabels) := by
    rw [hheight]
    decide
  have hsize : (fixedTabs.measureContent longLabels sectionLabels).run () = (.ok ⟨510, 56⟩, ()) :=
    run_unit (by decide +kernel)
  obtain ⟨-, htabs, -⟩ := measured_fits hm sectionLabels (by decide) 10 20
  obtain ⟨size, l, hmeasured, hlayout, htop, htabHeight, hrects⟩ := htabs fixedTabs hvalid hnatural
  obtain rfl := Except.ok.inj ((ends_of_run hsize).mp (hmeasured ()))
  obtain ⟨rect, hrect, hrectWidth⟩ := hrects 1 (by decide) 0
  exact ⟨hm, by decide, hvalid, hnatural, l, htop.trans (by decide +kernel),
    htabHeight.trans hheight, hlayout, rect, hrect, hrectWidth.trans hwidth⟩

end Widgetry
