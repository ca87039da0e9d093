import Widgetry.Proofs.Geometry.Uniform
import Widgetry.Proofs.Host.Echoes
import Widgetry.Proofs.Tabs.Geometry
import Widgetry.Proofs.Tabs.Walk

/-! Tabs as a strip of items: the rectangles of a laid-out row are those of the strip, and a hit
test searches it. Fixed tabs are found by division, scrollable ones along the row. -/
namespace Widgetry

variable {σ : Type}

/-- How a hit test finds a tab. -/
def TabMode.search : TabMode → Search
  | fixed => .stride
  | scrollable => .walk

namespace TabLayout

/-- The tabs of a row that is scrolled; fixed tabs stay where they are. -/
def strip (l : TabLayout Rat) (widths : List Rat) (scroll : Rat) : Strip where
  origin := match l.mode with
    | .fixed => l.startX
    | .scrollable => l.startX - scroll
  top := l.startY
  height := l.tabHeight
  gap := l.spacing
  widths

section Origin

variable (l : TabLayout Rat) {widths : List Rat} {scroll : Rat}

theorem origin_fixed (h : l.mode = .fixed) : (l.strip widths scroll).origin = l.startX := by
  rw [strip, h]

theorem origin_scrollable (h : l.mode = .scrollable) :
    (l.strip widths scroll).origin = l.startX - scroll := by
  rw [strip, h]

/-- A position in the row is measured from the first tab, wherever that is scrolled to. -/
theorem pos_eq (h : l.mode = .scrollable) {x : Rat} :
    x - l.startX + scroll = x - (l.strip widths scroll).origin := by
  rw [l.origin_scrollable h, sub_add]

end Origin

/-- The tabs have these widths. -/
structure Lines (s : TabStyle Rat) (measurer : Measurer Rat σ) (items : List String)
    (widths : List Rat) (tabWidth : Rat) : Prop where
  fixed : s.mode = .fixed → widths = List.replicate items.length tabWidth
  sized : s.mode = .scrollable → s.Sized measurer items widths
  nonneg : ∀ w ∈ widths, 0 ≤ w

theorem Lines.length {s : TabStyle Rat} {measurer : Measurer Rat σ} {items : List String}
    {widths : List Rat} {tabWidth : Rat} (hw : Lines s measurer items widths tabWidth) :
    widths.length = items.length := by
  cases hmode : s.mode with
  | fixed => rw [hw.fixed hmode, List.length_replicate]
  | scrollable => exact (hw.sized hmode).length_eq.symm

end TabLayout

namespace TabStyle

variable {s : TabStyle Rat} {measurer : Measurer Rat σ} {items : List String}

theorem Sized.lines (hs : s.Positive) (hmode : s.mode = .scrollable) {widths : List Rat}
    (hsized : s.Sized measurer items widths) (h : σ) (tabWidth : Rat) :
    TabLayout.Lines s measurer items widths tabWidth where
  fixed hfixed := nomatch hmode.symm.trans hfixed
  sized _ := hsized
  nonneg w hw := hs.minWidth.trans (hsized.minWidth_le h w hw)

/-- The tabs together are as long as the content. -/
theorem ends_widths_lines (hs : s.Positive)
    (hm : s.mode = .scrollable → ∀ text, Steady (measurer text)) {available : Rat} {h : σ} :
    Ends (s.widths measurer items available) h fun r _ => ∀ p, r = .ok p →
      ∃ widths, TabLayout.Lines s measurer items widths p.1 ∧
        (items ≠ [] → p.2 = Strip.offset s.spacing widths widths.length - s.spacing) := by
  unfold TabStyle.widths
  split
  next hmode =>
    refine .of_check (fun width hwidth => ?_) fun _ _ _ hr => nomatch hr
    rintro _ ⟨⟩
    have hnonneg : ∀ w ∈ List.replicate items.length width, 0 ≤ w := by
      intro w hw
      rw [List.eq_of_mem_replicate hw]
      exact Row.nonneg_of_evenWidth hwidth
    refine ⟨List.replicate items.length width, ⟨fun _ => rfl,
      fun hscrollable => (nomatch hmode.symm.trans hscrollable), hnonneg⟩, fun hitems => ?_⟩
    let t : Strip := ⟨0, 0, 0, s.spacing, List.replicate items.length width⟩
    exact (Strip.reach_uniform (t := t) rfl (List.length_pos_iff.mpr hitems)).symm
  next hmode =>
    refine (ends_scrollableRun (hm hmode) 0).bind ?_ fun _ _ _ _ hr => nomatch hr
    rintro length h' hlength _ ⟨⟩
    obtain ⟨widths, hsized, hsum⟩ := hlength length rfl
    refine ⟨widths, hsized.lines hs hmode h' 0, fun hitems => ?_⟩
    rw [← zero_add (Strip.offset _ _ _)]
    exact hsum hitems

section Lines

variable {l : TabLayout Rat} {bounds : Rect Rat} {widths : List Rat} {scroll x y : Rat} {h : σ}
  (hl : l.Placed s items bounds) (hw : TabLayout.Lines s measurer items widths l.tabWidth)
include hl hw

theorem proper_strip (scroll : Rat) : (l.strip widths scroll).Proper :=
  ⟨hl.style.spacing.trans_eq hl.spacing.symm, hw.nonneg⟩

theorem returns_itemSpan {i : Nat} {item : String} {width : Rat} (hitem : items[i]? = some item)
    (hwidth : widths[i]? = some width) :
    Returns (s.itemSpan measurer items l i item) (Strip.offset l.spacing widths i, width) := by
  unfold itemSpan
  rw [hl.mode]
  split
  next hmode =>
    rw [hw.fixed hmode, List.getElem?_replicate] at hwidth
    split at hwidth
    next hi =>
      obtain rfl := Option.some.inj hwidth
      rw [hw.fixed hmode, Strip.offset_replicate _ _ hi.le, mul_comm]
      exact .pure _
    · exact nomatch hwidth
  next hmode =>
    have hsized := hw.sized hmode
    have hstart := returns_scrollableOffset hsized 0 i
    rw [zero_add, ← hl.spacing] at hstart
    obtain ⟨hi, rfl⟩ := List.getElem?_eq_some_iff.mp hitem
    obtain ⟨hi', rfl⟩ := List.getElem?_eq_some_iff.mp hwidth
    exact hstart.bind ((hsized.get hi hi').bind (.pure _))

/-- The rectangle of a tab is that of the item in the strip. -/
theorem returns_itemRect {i : Nat} {rect : Rect Rat}
    (hrect : (l.strip widths scroll).rects[i]? = some rect) :
    Returns (s.itemRect measurer items l i scroll) rect := by
  obtain ⟨width, hwidth, rfl⟩ := Strip.getElem?_rects.mp hrect
  have hi : i < items.length := by
    rw [← hw.length]
    exact (List.getElem?_eq_some_iff.mp hwidth).1
  have hitem : items[i]? = some items[i] := List.getElem?_eq_getElem hi
  have hpos : 0 ≤ width := hw.nonneg width (List.mem_of_getElem? hwidth)
  have hheight : 0 < l.tabHeight := hl.height (List.ne_nil_of_length_pos (Nat.zero_lt_of_lt hi))
  unfold itemRect
  rw [hitem]
  refine (returns_itemSpan hl hw hitem hwidth).bind ?_
  dsimp only
  rw [if_neg (not_or.mpr ⟨not_lt.mpr hpos, not_lt.mpr hheight.le⟩)]
  intro h
  rw [ends_pure]
  refine congrArg (fun x => Except.ok (Rect.mk x l.startY width l.tabHeight)) ?_
  split
  next hmode =>
    rw [Strip.start, l.origin_fixed hmode]
    rfl
  next hmode =>
    rw [Strip.start, l.origin_scrollable hmode, sub_add_eq_add_sub]
    rfl

/-- The walk searches the strip, from its start and at the height of the tabs. -/
theorem ends_walk_picks (hmode : s.mode = .scrollable) (hx : (l.strip widths scroll).origin ≤ x)
    (htop : l.startY ≤ y) (hbottom : y ≤ l.startY + l.tabHeight) :
    Ends (s.walk measurer l 0 (x - (l.strip widths scroll).origin) items) h fun r _ =>
      (l.strip widths scroll).Picks .walk x y r := by
  obtain ⟨found, hfound, hiff⟩ := returns_walk (hw.sized hmode) (proper_strip hl hw scroll).gap
    hw.nonneg 0 (sub_nonneg.mpr hx)
  apply (hfound h).imp
  rintro _ _ rfl
  refine .of_lands htop hbottom fun i => (hiff i).trans ?_
  simp only [Nat.zero_add, exists_eq_left']
  exact Iff.rfl

/-- All tabs are on the content, if that is as long as they are. -/
theorem onContent_of_covers (hreach : items ≠ [] → l.contentWidth = (l.strip widths scroll).reach)
    {i : Nat} {rect : Rect Rat} (hrect : (l.strip widths scroll).rects[i]? = some rect)
    (hcovers : rect.Covers x y) : items ≠ [] ∧ l.OnContent x y scroll := by
  have hitems : items ≠ [] := by
    rintro rfl
    obtain rfl := List.length_eq_zero_iff.mp hw.length
    exact nomatch hrect
  obtain ⟨htop, hbottom⟩ := Strip.band hrect
  obtain ⟨hstart, hend⟩ := (proper_strip hl hw scroll).bounds hrect
  have hstart := hstart.trans hcovers.left
  have hend := hcovers.right.trans hend
  rw [← hreach hitems] at hend
  refine ⟨hitems, le_trans htop.ge hcovers.top, le_trans hcovers.bottom hbottom.le, fun hmode => ?_,
    fun hmode => ?_⟩
  · rw [l.origin_fixed hmode] at hstart hend
    exact ⟨hstart, hend⟩
  · rw [l.pos_eq hmode]
    exact ⟨sub_nonneg.mpr hstart, sub_le_iff_le_add'.mpr hend⟩

/-- A hit test searches the strip. -/
theorem ends_hitTest_picks
    (hreach : items ≠ [] → l.contentWidth = (l.strip widths scroll).reach) :
    Ends (s.hitTest measurer items l x y scroll) h fun r _ =>
      (l.strip widths scroll).Picks s.mode.search x y r := by
  rw [← hl.mode]
  obtain ⟨hoff, hnone⟩ | ⟨⟨hitems, hon⟩, ⟨hmode, hsearch⟩ | ⟨hmode, hsearch⟩⟩ :=
    s.hitTest_cases measurer items l x y scroll
  · rw [hnone]
    exact .of_uncovered fun i a ha hcovers => hoff (onContent_of_covers hl hw hreach ha hcovers)
  · obtain ⟨hstart, hend⟩ := hon.fixed hmode
    rw [hreach hitems] at hend
    rw [hsearch, ends_liftExcept, hmode]
    rw [← l.origin_fixed hmode] at hstart hend ⊢
    exact Strip.picks_uniform (hw.fixed (hl.mode.symm.trans hmode)) (proper_strip hl hw scroll)
      (List.length_pos_iff.mpr hitems) hstart hend hon.top hon.bottom
  · obtain ⟨hstart, -⟩ := hon.scrolled hmode
    rw [l.pos_eq hmode] at hstart
    rw [hsearch, l.pos_eq hmode, hmode]
    exact ends_walk_picks hl hw (hl.mode.symm.trans hmode) (sub_nonneg.mp hstart) hon.top hon.bottom

/-- A scrollable tab that is hit is drawn at the point, whatever length the row is taken for. -/
theorem ends_hitTest_covers (hmode : s.mode = .scrollable) :
    Ends (s.hitTest measurer items l x y scroll) h fun r _ => ∀ i, r = .ok (some i) →
      ∃ rect, (l.strip widths scroll).rects[i]? = some rect ∧ rect.Covers x y := by
  obtain ⟨-, hnone⟩ | ⟨⟨-, hon⟩, ⟨hfixed, -⟩ | ⟨hscrollable, hsearch⟩⟩ :=
    s.hitTest_cases measurer items l x y scroll
  · rw [hnone]
    exact fun _ hr => nomatch hr
  · exact nomatch hfixed.symm.trans (hl.mode.trans hmode)
  · obtain ⟨hstart, -⟩ := hon.scrolled hscrollable
    rw [l.pos_eq hscrollable] at hstart
    rw [hsearch, l.pos_eq hscrollable]
    apply (ends_walk_picks hl hw hmode (sub_nonneg.mp hstart) hon.top hon.bottom).imp
    intro r _ hr i hi
    obtain ⟨rect, hrect, hcovers, -⟩ := hr.only i hi
    exact ⟨rect, hrect, hcovers⟩

end Lines

/-- A scrollable tab that is hit is drawn at the point, if labels always measure alike. -/
theorem ends_hitTest_rect {metrics : String → TextMetrics Rat} (hm : Answers measurer metrics)
    {l : TabLayout Rat} {bounds : Rect Rat} (hl : l.Placed s items bounds)
    (hmode : s.mode = .scrollable) {x y scroll : Rat} {h : σ} :
    Ends (s.hitTest measurer items l x y scroll) h fun r _ => ∀ i, r = .ok (some i) → ∃ rect,
      (s.itemRect (fun text => pure (metrics text)) items l i scroll).run () = (.ok rect, ()) ∧
        rect.Covers x y := by
  obtain ⟨widths, hsized, -⟩ := exists_sized (s := s) (fun text => .pure (metrics text)) items
  have hw := hsized.lines hl.style hmode () l.tabWidth
  apply (mirrors_iff.mpr (s.echoes_hitTest hm.echoes items l x y scroll) h).imp
  intro r _ hr i hi
  have hstill := (ends_of_run (hr _ hi)).mp (ends_hitTest_covers hl hw hmode)
  obtain ⟨rect, hrect, hcovers⟩ := hstill i rfl
  exact ⟨rect, Prod.ext (returns_itemRect hl hw hrect ()) rfl, hcovers⟩

/-- The tabs of a laid-out row have their widths, and together they are as long as its content. -/
theorem lines_of_run {l : TabLayout Rat} {bounds : Rect Rat} {h h' : σ}
    (hm : s.mode = .scrollable → ∀ text, Steady (measurer text))
    (hrun : (s.computeLayout measurer items bounds).run h = (.ok l, h')) :
    ∃ room, l.Seated s items bounds room ∧ ∃ widths,
      TabLayout.Lines s measurer items widths l.tabWidth ∧
        (items ≠ [] → ∀ scroll, l.contentWidth = (l.strip widths scroll).reach) := by
  obtain ⟨⟨room, hl⟩, h₁, hwidths⟩ := (ends_of_run hrun).mp ends_computeLayout_seated l rfl
  obtain ⟨hlines, heq⟩ := Ends.and (ends_widths_lines hl.style hm) hwidths
  obtain ⟨widths, hw, hreach⟩ := hlines _ heq
  refine ⟨room, hl, widths, hw, fun hitems scroll => (hreach hitems).trans ?_⟩
  rw [← hl.spacing]
  rfl

/-- A laid-out row is a strip of tabs, however far it is scrolled. -/
theorem strip_of_run {l : TabLayout Rat} {bounds : Rect Rat} {h h' : σ}
    (hm : s.mode = .scrollable → ∀ text, Steady (measurer text))
    (hrun : (s.computeLayout measurer items bounds).run h = (.ok l, h')) (scroll : Rat) :
    ∃ t : Strip, t.Proper ∧ t.gap = s.spacing ∧ t.rects.length = items.length ∧
      (∀ (i : Nat) rect, t.rects[i]? = some rect →
        Returns (s.itemRect measurer items l i scroll) rect) ∧
      ∀ x y h, Ends (s.hitTest measurer items l x y scroll) h fun r _ =>
        t.Picks s.mode.search x y r := by
  obtain ⟨room, hseated, widths, hw, hreach⟩ := lines_of_run hm hrun
  have hl := hseated.placed
  refine ⟨l.strip widths scroll, proper_strip hl hw scroll, hl.spacing, ?_, fun i rect hrect => ?_,
    fun x y h => ends_hitTest_picks hl hw fun hitems => hreach hitems scroll⟩
  · rw [Strip.length_rects]
    exact hw.length
  · exact returns_itemRect hl hw hrect

end TabStyle

end Widgetry
