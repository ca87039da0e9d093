import Widgetry.Proofs.Host.Agree
import Widgetry.Proofs.Operations

/-! What painting can tell of the flags of a widget. A row and a group look whether they are
disabled, for the colours of that, and no widget looks at anything else: under two flag words that
are disabled alike it is painted alike. -/
namespace Widgetry

variable {α σ χ ω β : Type} {put : WidgetFlags → ω → ω} {f g : WidgetFlags}

/-- One thing, under two flag words. -/
inductive Flagged (put : WidgetFlags → ω → ω) (f g : WidgetFlags) : ω → ω → Prop
  | flagged (w : ω) : Flagged put f g (put f w) (put g w)

/-- What is changed besides the flags is changed in the same way. -/
theorem flagged_update {change : ω → ω}
    (h : ∀ flags w, change (put flags w) = put flags (change w)) :
    Step.Blind (Flagged put f g) Eq (Step.update change : Step ω σ Unit) := by
  refine Step.agree_update ?_
  rintro _ _ ⟨w⟩
  rw [h, h]
  exact .flagged (change w)

theorem flagged_host (act : HostM σ β) :
    Step.Blind (Flagged put f g) Eq (Step.host act : Step ω σ β) := Step.agree_host (agree_eq act)

namespace TabRow

def withFlags (flags : WidgetFlags) (row : TabRow α σ χ) : TabRow α σ χ := { row with flags }

variable [Scalar α] [TextHost α σ]

theorem flagged_currentLayout :
    Step.Blind (Flagged withFlags f g) Eq
      (currentLayout : Step (TabRow α σ χ) σ (TabLayout α)) := by
  refine Step.agree_self_bind ?_
  rintro _ _ ⟨row⟩
  exact (Step.agree_check _).bind fun measurer => flagged_host _

variable [PaintHost α σ] (row : TabRow α σ χ)
  (hfg : f.has WidgetFlags.disabled = g.has WidgetFlags.disabled)
include hfg

omit [TextHost α σ] in
theorem paintIndicator_withFlags (layout : TabLayout α) :
    (row.withFlags f).paintIndicator layout = (row.withFlags g).paintIndicator layout := by
  have hcolor : (row.withFlags f).indicatorColor = (row.withFlags g).indicatorColor := by
    dsimp only [indicatorColor, withFlags]
    rw [hfg]
  unfold paintIndicator
  rw [hcolor]
  rfl

theorem paintLabels_withFlags (font : FontHandle) (layout : TabLayout α) (index : Nat)
    (items : List String) : (row.withFlags f).paintLabels font layout index items =
      (row.withFlags g).paintLabels font layout index items := by
  induction items generalizing index with
  | nil => rfl
  | cons item rest ih =>
    have hcolor : (row.withFlags f).textColor index = (row.withFlags g).textColor index := by
      dsimp only [textColor, withFlags]
      rw [hfg]
    simp only [paintLabels, ih, hcolor]
    rfl

theorem flagged_paint :
    Step.Blind (Flagged withFlags f g) Eq (paint : Step (TabRow α σ χ) σ Unit) := by
  refine flagged_currentLayout.bind fun layout => Step.agree_self_bind ?_
  rintro _ _ ⟨_⟩
  refine (Step.agree_check _).bind fun scroll => ?_
  refine Accord.bind (flagged_update fun _ _ => rfl) fun _ => Step.agree_self_bind ?_
  rintro _ _ ⟨row⟩
  simp only [paintIndicator_withFlags row hfg, paintLabels_withFlags row hfg]
  refine (flagged_host _).bind fun _ => (flagged_host _).bind fun _ => ?_
  exact (Step.agree_check _).bind fun font => flagged_host _

end TabRow

namespace SegmentGroup

def withFlags (flags : WidgetFlags) (group : SegmentGroup α σ) : SegmentGroup α σ :=
  { group with flags }

variable [Scalar α] [TextHost α σ]

theorem flagged_currentLayout :
    Step.Blind (Flagged withFlags f g) Eq
      (currentLayout : Step (SegmentGroup α σ) σ (SegmentLayout α)) := by
  refine Step.agree_self_bind ?_
  rintro _ _ ⟨group⟩
  exact (Step.agree_check _).bind fun measurer => flagged_host _

variable [PaintHost α σ] (hfg : f.has WidgetFlags.disabled = g.has WidgetFlags.disabled)
include hfg

theorem paintSegments_withFlags (group : SegmentGroup α σ) (font : FontHandle)
    (layout : SegmentLayout α) (index : Nat) (items : List String) :
    (group.withFlags f).paintSegments font layout index items =
      (group.withFlags g).paintSegments font layout index items := by
  induction items generalizing index with
  | nil => rfl
  | cons item rest ih =>
    have hsegment : (group.withFlags f).paintSegment font layout index rest.isEmpty item =
        (group.withFlags g).paintSegment font layout index rest.isEmpty item := by
      dsimp only [paintSegment, withFlags]
      rw [hfg]
      rfl
    rw [paintSegments, paintSegments, hsegment, ih]

theorem flagged_paint :
    Step.Blind (Flagged withFlags f g) Eq (paint : Step (SegmentGroup α σ) σ Unit) := by
  refine flagged_currentLayout.bind fun layout => Step.agree_self_bind ?_
  rintro _ _ ⟨group⟩
  simp only [paintSegments_withFlags hfg]
  exact (Step.agree_check _).bind fun font => flagged_host _

end SegmentGroup

namespace Label

def withFlags (flags : WidgetFlags) (label : Label α) : Label α := { label with flags }

variable [TextHost α σ]

theorem flagged_metrics :
    Step.Blind (Flagged withFlags f g) Eq (metrics : Step (Label α) σ (TextMetrics α)) := by
  refine Step.agree_self_bind ?_
  rintro _ _ ⟨label⟩
  dsimp only [withFlags]
  cases label.metrics? with
  | some metrics => exact .pure metrics
  | none =>
    refine (Step.agree_check _).bind fun font => (flagged_host _).bind fun metrics => ?_
    exact Accord.bind (flagged_update fun _ _ => rfl) fun _ => .pure metrics

theorem flagged_paint [Scalar α] [PaintHost α σ] :
    Step.Blind (Flagged withFlags f g) Eq (paint : Step (Label α) σ Unit) := by
  refine flagged_metrics.bind fun metrics => Step.agree_self_bind ?_
  rintro _ _ ⟨label⟩
  exact (Step.agree_check _).bind fun font => flagged_host _

end Label

namespace Badge

def withFlags (flags : WidgetFlags) (badge : Badge α) : Badge α := { badge with flags }

variable [Scalar α] [TextHost α σ] [PaintHost α σ]

theorem flagged_paint :
    Step.Blind (Flagged withFlags f g) Eq (paint : Step (Badge α) σ Unit) := by
  refine Step.agree_self_bind ?_
  rintro _ _ ⟨badge⟩
  refine .ite (fun _ => (flagged_host _).bind fun _ => ?_) fun _ => .pure ()
  dsimp only [withFlags]
  cases badge.label with
  | some label => exact flagged_host _
  | none => exact .pure ()

end Badge

namespace Tooltip

def withFlags (flags : WidgetFlags) (tip : Tooltip α) : Tooltip α := { tip with flags }

variable [TextHost α σ]

theorem flagged_content :
    Step.Blind (Flagged withFlags f g) Eq (content : Step (Tooltip α) σ (TooltipContent α)) := by
  refine Step.agree_self_bind ?_
  rintro _ _ ⟨tip⟩
  dsimp only [withFlags]
  cases tip.content? with
  | some content => exact .pure content
  | none =>
    refine (flagged_host tip.measureBody).bind fun body => ?_
    refine (flagged_host tip.measureTitle).bind fun title => ?_
    exact Accord.bind (flagged_update fun _ _ => rfl) fun _ => .pure _

theorem flagged_paint [Scalar α] [PaintHost α σ] :
    Step.Blind (Flagged withFlags f g) Eq (paint : Step (Tooltip α) σ Unit) := by
  refine Step.agree_self_bind ?_
  rintro _ _ ⟨_⟩
  refine .ite (fun _ => .pure ()) fun _ => ?_
  refine flagged_content.bind fun content => Step.agree_self_bind ?_
  rintro _ _ ⟨tip⟩
  refine (flagged_host _).bind fun _ => ?_
  refine (flagged_host (tip.paintTitle content _)).bind fun y => ?_
  cases content.body with
  | some metrics =>
    exact flagged_host (tip.drawLine tip.bodyFont tip.body (y + metrics.baseline) tip.bodyColor)
  | none => exact .pure ()

end Tooltip

namespace Widget

def withFlags (flags : WidgetFlags) : Widget α σ χ → Widget α σ χ
  | tabs row => tabs (row.withFlags flags)
  | segmented group => segmented (group.withFlags flags)
  | label l => label (l.withFlags flags)
  | badge b => badge (b.withFlags flags)
  | tooltip tip => tooltip (tip.withFlags flags)

@[simp] theorem flags_withFlags (flags : WidgetFlags) (w : Widget α σ χ) :
    (w.withFlags flags).flags = flags := by cases w <;> rfl

@[simp] theorem withFlags_withFlags (f g : WidgetFlags) (w : Widget α σ χ) :
    (w.withFlags g).withFlags f = w.withFlags f := by cases w <;> rfl

@[simp] theorem withFlags_flags (w : Widget α σ χ) : w.withFlags w.flags = w := by
  cases w <;> rfl

theorem ends_flagged (wrap : ω → Widget α σ χ)
    (hwrap : ∀ flags w, wrap (put flags w) = (wrap w).withFlags flags) {act : Step ω σ β}
    (hact : Step.Blind (Flagged put f g) Eq act) (w : ω) (h : σ) :
    Ends act (put f w, h) fun r p => Ends act (put g w, h) fun r' q =>
      r = r' ∧ wrap p.1 = (wrap q.1).withFlags f ∧ p.2 = q.2 := by
  apply (hact.ends (s := (put f w, h)) (t := (put g w, h)) ⟨.flagged w, rfl⟩).imp
  rintro r ⟨_, h₁⟩ hends
  apply hends.imp
  rintro r' ⟨_, h₂⟩ ⟨hr, ⟨left⟩, hh⟩
  refine ⟨hr, ?_, hh⟩
  rw [hwrap, hwrap, withFlags_withFlags]

/-- Under two flag words that are disabled alike a widget asks its painter for the same, ends in the
same way and is left the same but for the flags. -/
theorem ends_paint_withFlags [Scalar α] [TextHost α σ] [PaintHost α σ] [Channel α σ χ]
    (hfg : f.has WidgetFlags.disabled = g.has WidgetFlags.disabled) (w : Widget α σ χ) (h : σ) :
    Ends paint (w.withFlags f, h) fun r p => Ends paint (w.withFlags g, h) fun r' q =>
      r = r' ∧ p.1 = q.1.withFlags f ∧ p.2 = q.2 := by
  cases w with
  | tabs row => exact ends_flagged tabs (fun _ _ => rfl) (TabRow.flagged_paint hfg) row h
  | segmented group =>
    exact ends_flagged segmented (fun _ _ => rfl) (SegmentGroup.flagged_paint hfg) group h
  | label l => exact ends_flagged label (fun _ _ => rfl) Label.flagged_paint l h
  | badge b => exact ends_flagged badge (fun _ _ => rfl) Badge.flagged_paint b h
  | tooltip tip => exact ends_flagged tooltip (fun _ _ => rfl) Tooltip.flagged_paint tip h

end Widget

end Widgetry
