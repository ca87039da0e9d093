import Widgetry.Proofs.Tooltip.Backed
import Widgetry.Proofs.Tooltip.Sides
import Widgetry.Recorder

/-! The lines of a tooltip in exact arithmetic. Its size is that of the lines stacked on each other,
and what is drawn goes from baseline to baseline; both come to the same boxes, and where nothing has
taken off the size these lie inside the padding. -/
namespace Widgetry

/-- A text that is drawn, and the metrics it is placed by. -/
structure DrawnLine where
  run : TextRun Rat
  metrics : TextMetrics Rat

/-- What a line takes up, measured from its baseline. -/
def DrawnLine.box (l : DrawnLine) : Rect Rat :=
  ⟨l.run.x, l.run.y - l.metrics.baseline, l.metrics.width, l.metrics.height⟩

/-- Insets that there is room for are taken off. -/
theorem Rect.inset_eq_ok {r : Rect Rat} {e : Edges Rat} (hw : e.horizontal ≤ r.width)
    (hh : e.vertical ≤ r.height) :
    r.inset e = .ok ⟨r.x + e.left, r.y + e.top, r.width - e.horizontal, r.height - e.vertical⟩ :=
  if_neg (not_or.mpr ⟨not_lt.mpr (sub_nonneg.mpr hw), not_lt.mpr (sub_nonneg.mpr hh)⟩)

namespace TooltipStyle

variable {s : TooltipStyle Rat} {content : TooltipContent Rat} {size : Size Rat}

/-- Nothing but a maximum makes a tooltip smaller than its content. -/
theorem le_limited (content minimum : Rat) : content ≤ limited content minimum 0 := by
  rw [limited, if_neg (lt_irrefl _)]
  split
  · exact le_max_left _ _
  · exact le_rfl

theorem contentSize_eq_ok : s.contentSize content = .ok size ↔
    s.validate false = .ok () ∧ content.validate s.variant = .ok () ∧
      size = ⟨limited ((content.extent s).width + s.padding.horizontal) s.minWidth s.maxWidth,
        limited ((content.extent s).height + s.padding.vertical) s.minHeight s.maxHeight⟩ := by
  rw [contentSize, Validate.seq_eq_ok, Validate.seq_eq_ok]
  exact and_congr_right' (and_congr_right' ⟨fun h => (Except.ok.inj h).symm, fun h => h ▸ rfl⟩)

theorem spacing_nonneg {requireFamily : Bool} (h : s.validate requireFamily = .ok ()) :
    0 ≤ s.titleBodySpacing := by
  obtain ⟨hlengths, -⟩ := Validate.seq_eq_ok.mp h
  refine Validate.nonNegative_eq_ok.mp hlengths (s.titleBodySpacing, "tooltip title spacing") ?_
  simp [TooltipStyle.lengths]

end TooltipStyle

/-- A placement gives the size it is asked for, as far as the overlay has it. -/
theorem TooltipPlacement.extent_of_computeBounds {p : TooltipPlacement} {style : TooltipStyle Rat}
    {anchor : TooltipAnchor Rat} {overlay r : Rect Rat} {size : Size Rat} {d : TooltipDirection}
    (h : p.computeBounds style anchor overlay size = .ok (r, d)) :
    r.width = min size.width overlay.width ∧ r.height = min size.height overlay.height := by
  rw [computeBounds_eq] at h
  obtain ⟨-, h⟩ := Validate.seq_eq_ok.mp h
  obtain ⟨bounds, -, h⟩ := Validate.bind_eq_ok.mp h
  obtain ⟨-, h⟩ := Validate.seq_eq_ok.mp h
  obtain ⟨-, h⟩ := Validate.guard_eq_ok.mp h
  obtain ⟨rfl, -⟩ := Prod.mk.inj (Except.ok.inj h)
  exact ⟨rfl, rfl⟩

namespace TooltipContent

variable {c : TooltipContent Rat} {s : TooltipStyle Rat} {m : TextMetrics Rat}

theorem nonneg_of_not_negative (h : ¬negative m = true) : 0 ≤ m.width ∧ 0 ≤ m.height := by
  simp only [negative, Bool.or_eq_true, decide_eq_true_eq, not_or, not_lt] at h
  exact h.1

/-- Metrics that are checked are not negative. -/
theorem nonneg_of_validate {variant : TooltipVariant} (h : c.validate variant = .ok ())
    (hm : c.title = some m ∨ c.body = some m) : 0 ≤ m.width ∧ 0 ≤ m.height := by
  unfold validate at h
  split at h
  · exact nomatch h
  next hneg =>
    obtain ⟨htitle, hbody⟩ := not_or.mp hneg
    apply nonneg_of_not_negative
    rcases hm with hm | hm
    · rw [hm] at htitle
      exact htitle
    · rw [hm] at hbody
      exact hbody

/-- Where the body starts below the top of the lines. -/
def bodyTop (c : TooltipContent Rat) (s : TooltipStyle Rat) : Rat :=
  match c.title with
  | some title => title.height + s.titleBodySpacing
  | none => 0

/-- The lines on each other fit the extent. -/
structure FitsIn (c : TooltipContent Rat) (s : TooltipStyle Rat) (extent : Size Rat) : Prop where
  nonneg : 0 ≤ extent.width ∧ 0 ≤ extent.height
  top : 0 ≤ c.bodyTop s
  title : ∀ m, c.title = some m → m.width ≤ extent.width ∧ m.height ≤ extent.height
  body : ∀ m, c.body = some m → m.width ≤ extent.width ∧ c.bodyTop s + m.height ≤ extent.height

/-- A title counts only in the variant that shows it. -/
theorem fitsIn_extent (hs : s.validate false = .ok ()) (hc : c.validate s.variant = .ok ())
    (hshown : c.title.isSome → s.variant = .rich) : c.FitsIn s (c.extent s) := by
  have hspacing := TooltipStyle.spacing_nonneg hs
  have hnonneg {m : TextMetrics Rat} := nonneg_of_validate (m := m) hc
  obtain ⟨title | title, body | body⟩ := c
  · have hextent : extent ⟨none, none⟩ s = .zero := by
      unfold extent
      cases s.variant <;> rfl
    rw [hextent]
    exact ⟨⟨le_rfl, le_rfl⟩, le_rfl, fun _ hm => (nomatch hm), fun _ hm => nomatch hm⟩
  · obtain ⟨hwidth, hheight⟩ := hnonneg (.inr rfl)
    have hextent : extent ⟨none, some body⟩ s = ⟨body.width, body.height⟩ := by
      unfold extent
      cases s.variant with
      | plain => rfl
      | rich => exact congr (congrArg Size.mk (max_eq_right hwidth)) (zero_add body.height)
    rw [hextent]
    refine ⟨⟨hwidth, hheight⟩, le_rfl, fun _ hm => (nomatch hm), ?_⟩
    rintro _ ⟨⟩
    exact ⟨le_rfl, (zero_add body.height).le⟩
  · obtain ⟨hwidth, hheight⟩ := hnonneg (.inl rfl)
    have hextent : extent ⟨some title, none⟩ s = ⟨title.width, title.height⟩ := by
      unfold extent
      rw [hshown rfl]
    rw [hextent]
    refine ⟨⟨hwidth, hheight⟩, add_nonneg hheight hspacing, ?_, fun _ hm => nomatch hm⟩
    rintro _ ⟨⟩
    exact ⟨le_rfl, le_rfl⟩
  · obtain ⟨hwidth, hheight⟩ := hnonneg (.inl rfl)
    obtain ⟨-, hheight'⟩ := hnonneg (.inr rfl)
    have hextent : extent ⟨some title, some body⟩ s = ⟨max title.width body.width,
        title.height + s.titleBodySpacing + body.height⟩ := by
      unfold extent
      rw [hshown rfl]
    have hsum : 0 ≤ title.height + s.titleBodySpacing + body.height := by linarith
    rw [hextent]
    refine ⟨⟨hwidth.trans (le_max_left _ _), hsum⟩, add_nonneg hheight hspacing, ?_, ?_⟩
    · rintro _ ⟨⟩
      refine ⟨le_max_left _ _, ?_⟩
      dsimp only
      linarith
    · rintro _ ⟨⟩
      exact ⟨le_max_right _ _, le_rfl⟩

end TooltipContent

namespace Tooltip

/-- The title as it is drawn. -/
def titleLine (tip : Tooltip Rat) (c : TooltipContent Rat) : Option DrawnLine :=
  match tip.title, c.title with
  | some title, some metrics =>
    some ⟨⟨title, tip.bounds.x + tip.style.padding.left,
      tip.bounds.y + tip.style.padding.top + metrics.baseline, tip.style.title.color⟩, metrics⟩
  | _, _ => none

/-- Where the title leaves off. -/
def bodyStart (tip : Tooltip Rat) (c : TooltipContent Rat) : Rat :=
  match tip.title, c.title with
  | some _, some metrics =>
    tip.bounds.y + tip.style.padding.top + metrics.baseline +
      (metrics.height - metrics.baseline + tip.style.titleBodySpacing)
  | _, _ => tip.bounds.y + tip.style.padding.top

/-- The body as it is drawn. -/
def bodyLine (tip : Tooltip Rat) (c : TooltipContent Rat) : Option DrawnLine :=
  c.body.map fun metrics =>
    ⟨⟨tip.body, tip.bounds.x + tip.style.padding.left, tip.bodyStart c + metrics.baseline,
      tip.bodyColor⟩, metrics⟩

/-- The lines that are drawn are those whose metrics are in store. They lie inside the padding, the
title at the top and the body below it. -/
structure Stacked (tip : Tooltip Rat) (title? body? : Option DrawnLine) : Prop where
  title : ∀ l ∈ title?, tip.title = some l.run.text ∧
    (tip.content?.bind (·.title)) = some l.metrics
  body : ∀ l ∈ body?, tip.body = l.run.text ∧ (tip.content?.bind (·.body)) = some l.metrics
  within : ∀ l, l ∈ title? ∨ l ∈ body? →
    ∃ inner, tip.bounds.inset tip.style.padding = .ok inner ∧ l.box.Within inner
  top : ∀ l ∈ title?, l.box.y = tip.bounds.y + tip.style.padding.top
  below : ∀ l ∈ title?, ∀ l' ∈ body?, l'.box.y = l.box.bottom + tip.style.titleBodySpacing

variable {tip : Tooltip Rat} {c : TooltipContent Rat} {title? body? : Option DrawnLine}

theorem stacked_none : tip.Stacked none none :=
  ⟨fun _ hl => (nomatch hl), fun _ hl => (nomatch hl), fun _ hl => hl.elim (nomatch ·) (nomatch ·),
    fun _ hl => (nomatch hl), fun _ hl => nomatch hl⟩

/-- The body has not been drawn. -/
theorem Stacked.undrawn (h : tip.Stacked title? body?) : tip.Stacked title? none :=
  ⟨h.title, fun _ hl => (nomatch hl), fun l hl => h.within l (hl.imp id (nomatch ·)), h.top,
    fun _ _ _ hl => nomatch hl⟩

theorem bodyStart_eq (hb : tip.Backed c) :
    tip.bodyStart c = tip.bounds.y + tip.style.padding.top + c.bodyTop tip.style := by
  unfold bodyStart TooltipContent.bodyTop
  cases hc : c.title with
  | none =>
    rw [add_zero]
    cases tip.title <;> rfl
  | some m =>
    obtain ⟨title, htitle⟩ := Option.isSome_iff_exists.mp (hb.title (by rw [hc]; rfl)).2.1
    rw [htitle]
    dsimp only
    linarith

/-- The box of the title does not depend on its baseline. -/
theorem mem_titleLine {l : DrawnLine} (hl : l ∈ tip.titleLine c) : tip.title = some l.run.text ∧
    c.title = some l.metrics ∧ l.box = ⟨tip.bounds.x + tip.style.padding.left,
      tip.bounds.y + tip.style.padding.top, l.metrics.width, l.metrics.height⟩ := by
  unfold titleLine at hl
  split at hl
  next title metrics htitle hmetrics =>
    obtain rfl := Option.some.inj hl
    refine ⟨htitle, hmetrics, ?_⟩
    rw [DrawnLine.box, add_sub_cancel_right]
  next => exact nomatch hl

/-- Nor does that of the body, which starts where the size has it. -/
theorem mem_bodyLine (hb : tip.Backed c) {l : DrawnLine} (hl : l ∈ tip.bodyLine c) :
    tip.body = l.run.text ∧ c.body = some l.metrics ∧
      l.box = ⟨tip.bounds.x + tip.style.padding.left,
        tip.bounds.y + tip.style.padding.top + c.bodyTop tip.style, l.metrics.width,
        l.metrics.height⟩ := by
  obtain ⟨metrics, hmetrics, rfl⟩ := Option.map_eq_some_iff.mp hl
  refine ⟨rfl, hmetrics, ?_⟩
  rw [DrawnLine.box, bodyStart_eq hb, add_sub_cancel_right]

theorem stacked_lines (hstored : tip.content? = some c) (hb : tip.Backed c)
    (hstyle : tip.style.validate false = .ok ()) (hc : c.validate tip.style.variant = .ok ())
    (hwidth : (c.extent tip.style).width + tip.style.padding.horizontal ≤ tip.bounds.width)
    (hheight : (c.extent tip.style).height + tip.style.padding.vertical ≤ tip.bounds.height) :
    tip.Stacked (tip.titleLine c) (tip.bodyLine c) := by
  have hfits := TooltipContent.fitsIn_extent hstyle hc fun hsome => (hb.title hsome).1
  obtain ⟨hw, hh⟩ := hfits.nonneg
  have htop := hfits.top
  have hinset := Rect.inset_eq_ok (r := tip.bounds) (e := tip.style.padding) (by linarith)
    (by linarith)
  refine ⟨fun l hl => ?_, fun l hl => ?_, fun l hl => ⟨_, hinset, ?_⟩, fun l hl => ?_,
    fun l hl l' hl' => ?_⟩
  · obtain ⟨htext, hmetrics, -⟩ := mem_titleLine hl
    rw [hstored]
    exact ⟨htext, hmetrics⟩
  · obtain ⟨htext, hmetrics, -⟩ := mem_bodyLine hb hl
    rw [hstored]
    exact ⟨htext, hmetrics⟩
  · rcases hl with hl | hl
    · obtain ⟨-, hmetrics, hbox⟩ := mem_titleLine hl
      obtain ⟨hlw, hlh⟩ := hfits.title _ hmetrics
      rw [hbox]
      refine ⟨le_rfl, ?_, le_rfl, ?_⟩
      all_goals
        simp only [Rect.right, Rect.bottom]
        linarith
    · obtain ⟨-, hmetrics, hbox⟩ := mem_bodyLine hb hl
      obtain ⟨hlw, hlh⟩ := hfits.body _ hmetrics
      rw [hbox]
      refine ⟨le_rfl, ?_, ?_, ?_⟩
      all_goals
        simp only [Rect.right, Rect.bottom]
        linarith
  · rw [(mem_titleLine hl).2.2]
  · obtain ⟨-, hmetrics, hbox⟩ := mem_titleLine hl
    rw [(mem_bodyLine hb hl').2.2, hbox, TooltipContent.bodyTop, hmetrics]
    simp only [Rect.bottom]
    linarith

end Tooltip

end Widgetry
