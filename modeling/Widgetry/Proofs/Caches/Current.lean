import Widgetry.Monospace
import Widgetry.Proofs.Caches.Lines
import Widgetry.Proofs.Fonts.Ownership

/-! Measured text is current. On a host that measures by font and text alone, what a widget
remembers is what the host would measure now, in every state that a program can bring the widget
to and whichever calls the host refuses. -/
namespace Widgetry

variable {α σ τ χ ω β : Type} {metrics : FontHandle → String → TextMetrics α}

/-- A record changes no answers. -/
theorem Traced.answers_measureText [TextHost α σ] {font : FontHandle}
    {still : String → TextMetrics α}
    (hm : Answers (TextHost.measureText font : Measurer α σ) still) :
    Answers (TextHost.measureText font : Measurer α (Traced σ)) still :=
  fun text t => (ends_call _ _).mpr (hm text t.host)

section Current

variable [TextHost α τ]

/-- With its font, a label answers what its text measures in that font, or what the host answers
that refuses to measure it. -/
def Label.Current (metrics : FontHandle → String → TextMetrics α) (h : τ) (label : Label α) :
    Prop :=
  ∀ font, label.font.handle? = some font →
    Ends Label.metrics (label, h) fun r _ => r = .ok (metrics font label.text) ∨
      ∃ e, r = .error e ∧ Ends (TextHost.measureText font label.text) h fun r' _ => r' = .error e

/-- With its font, a badge centres its label by the line of that font. -/
def Badge.Current [Scalar α] (metrics : FontHandle → String → TextMetrics α) (τ : Type)
    [TextHost α τ] [PaintHost α τ] (badge : Badge α) : Prop :=
  ∀ font label, badge.font.handle? = some font → badge.label = some label →
    badge.line = metrics font "" ∧ (badge.paintLabel label : HostM τ Unit) =
      if badge.style.textColor.isVisible then do
        let drawn ← TextHost.measureText font label
        let (x, y) := Row.centeredText badge.bounds { metrics font "" with width := drawn.width }
        PaintHost.drawText font label x y badge.style.textColor
      else pure ()

/-- With its fonts, a tooltip answers what the lines it shows measure in them, unless the host
refuses to measure one. -/
def Tooltip.Current (metrics : FontHandle → String → TextMetrics α) (h : τ) (tip : Tooltip α) :
    Prop :=
  tip.Holds → Ends Tooltip.content (tip, h) fun r _ =>
    (∃ content, r = .ok content ∧ tip.Measured metrics content) ∨
      ∃ e, r = .error e ∧ tip.Refused h e

variable (hm : ∀ font, Answers (TextHost.measureText font : Measurer α τ) (metrics font)) {h : τ}

include hm in
theorem Label.Cached.current {label : Label α} (hl : label.Cached metrics) :
    label.Current metrics h :=
  fun font hfont => (ends_metrics_cached hm hl).imp fun _ _ hr => hr.2 font hfont

theorem Badge.Cached.current [Scalar α] [PaintHost α τ] {badge : Badge α}
    (hb : badge.Cached metrics) : badge.Current metrics τ := by
  intro font label hfont hlabel
  have hline := hb font hfont
  refine ⟨hline, ?_⟩
  have hlive : badge.font.isLive = true := by
    rw [OwnedFont.isLive, hfont]
    rfl
  rw [← hline, paintLabel, labelWidth, hlabel, hfont, OwnedFont.handle_eq_ok.mpr hfont]
  simp only [hlive, true_and, bind_assoc, pure_bind]
  rfl

include hm in
theorem Tooltip.Cached.current {tip : Tooltip α} (htip : tip.Cached metrics) :
    tip.Current metrics h := by
  intro hholds
  apply (ends_content_cached hm htip).imp
  rintro (e | content) p ⟨-, hr⟩
  · exact .inr ⟨e, rfl, hr hholds⟩
  · exact .inl ⟨content, rfl, hr⟩

end Current

namespace Widget

/-- What a widget remembers of its text. Rows and groups remember nothing. -/
def Cached (metrics : FontHandle → String → TextMetrics α) : Widget α τ χ → Prop
  | label l => l.Cached metrics
  | badge b => b.Cached metrics
  | tooltip tip => tip.Cached metrics
  | tabs _ | segmented _ => True

theorem keeps_dispatch_cached {onTabs : Step (TabRow α τ χ) τ β}
    {onSegmented : Step (SegmentGroup α τ) τ β} {onLabel : Step (Label α) τ β}
    {onBadge : Step (Badge α) τ β} {onTooltip : Step (Tooltip α) τ β}
    (hlabel : Keeps (fun p => p.1.Cached metrics) onLabel)
    (hbadge : Keeps (fun p => p.1.Cached metrics) onBadge)
    (htooltip : Keeps (fun p => p.1.Cached metrics) onTooltip) :
    Keeps (fun p => p.1.Cached metrics)
      (dispatch onTabs onSegmented onLabel onBadge onTooltip) := by
  rintro ⟨w, h⟩ hw
  cases w with
  | tabs row => exact ends_dispatch_tabs.mpr trivial
  | segmented group => exact ends_dispatch_segmented.mpr trivial
  | label l => exact ends_dispatch_label.mpr (hlabel (l, h) hw)
  | badge b => exact ends_dispatch_badge.mpr (hbadge (b, h) hw)
  | tooltip tip => exact ends_dispatch_tooltip.mpr (htooltip (tip, h) hw)

variable [Scalar α] [TextHost α τ]

section Hosted

variable (hm : ∀ font, Answers (TextHost.measureText font : Measurer α τ) (metrics font))
include hm

theorem keeps_run_cached [PaintHost α τ] [Channel α τ χ] (hearTab : TabListener σ → TabListener τ)
    (hearSegment : SegmentListener σ → SegmentListener τ) (op : WidgetOp α σ) :
    Keeps (fun p => p.1.Cached metrics)
      (op.run hearTab hearSegment : Step (Widget α τ χ) τ Unit) := by
  cases op with
  | tabs op => exact keeps_dispatch_cached (.pure _) (.pure _) (.pure _)
  | segmented op => exact keeps_dispatch_cached (.pure _) (.pure _) (.pure _)
  | label op => exact keeps_dispatch_cached (Label.keeps_run_cached hm op) (.pure _) (.pure _)
  | badge op => exact keeps_dispatch_cached (.pure _) (Badge.keeps_run_cached hm op) (.pure _)
  | tooltip op => exact keeps_dispatch_cached (.pure _) (.pure _) (Tooltip.keeps_run_cached hm op)

omit [Scalar α] [TextHost α τ] hm in
theorem ends_made_cached {act : HostM τ ω} {P : ω → Prop} {h : τ} (wrap : ω → Widget α τ χ)
    (hmade : Ends act h fun r _ => ∀ w, r = .ok w → P w)
    (hwrap : ∀ w, P w → (wrap w).Cached metrics) :
    Ends (do return wrap (← act)) h fun r _ => ∀ w, r = .ok w → w.Cached metrics := by
  refine hmade.bind ?_ fun _ _ _ _ hr => nomatch hr
  rintro w h' hw _ ⟨⟩
  exact hwrap w (hw w rfl)

theorem ends_create_cached [Channel α τ χ] (c : Creation α χ) {h : τ} :
    Ends c.run h fun r _ => ∀ w : Widget α τ χ, r = .ok w → w.Cached metrics := by
  cases c with
  | tabs style items selected positionChannel widthChannel =>
    exact ends_made_cached tabs ((ends_run _ h).imp fun _ _ _ _ _ => trivial) fun _ h => h
  | segmented style items selection =>
    exact ends_made_cached segmented ((ends_run _ h).imp fun _ _ _ _ _ => trivial) fun _ h => h
  | label style text =>
    exact ends_made_cached label (Label.ends_create_cached style text) fun _ h => h
  | badge style text? =>
    exact ends_made_cached badge (Badge.ends_create_cached hm style text?) fun _ h => h
  | tooltip style anchor placement body =>
    exact ends_made_cached tooltip
      (Tooltip.ends_create_cached style anchor placement body) fun _ h => h

end Hosted

/-- What a widget remembers of its text is what the host would answer now. -/
def Current [PaintHost α τ] (metrics : FontHandle → String → TextMetrics α) (h : τ) :
    Widget α τ χ → Prop
  | label l => l.Current metrics h
  | badge b => b.Current metrics τ
  | tooltip tip => tip.Current metrics h
  | tabs _ | segmented _ => True

theorem Cached.current [PaintHost α τ]
    (hm : ∀ font, Answers (TextHost.measureText font : Measurer α τ) (metrics font)) {h : τ}
    {w : Widget α τ χ} (hw : w.Cached metrics) : w.Current metrics h := by
  cases w with
  | tabs row => exact trivial
  | segmented group => exact trivial
  | label l => exact Label.Cached.current hm hw
  | badge b => exact Badge.Cached.current hw
  | tooltip tip => exact Tooltip.Cached.current hm hw

end Widget

namespace Stage

variable [Scalar α] [TextHost α σ] [PaintHost α σ] [Channel α σ χ] {s : Stage α σ χ}
  {P : Widget α (Traced σ) (Silent χ) → Prop}

section Each

variable (hnew : ∀ (c : Creation α (Silent χ)) t, Ends c.run t fun r _ => ∀ w, r = .ok w → P w)
  (hrun : ∀ op : WidgetOp α σ, Keeps (fun p => P p.1) (op.run Traced.hearTab Traced.hearSegment))
include hnew hrun

/-- What a widget has from the start and keeps through each operation, each widget of a program
has. -/
theorem forall_next (h : ∀ w ∈ s.widgets, P w) (op : StageOp α σ χ) :
    ∀ w ∈ (s.next op).widgets, P w := by
  cases op with
  | build creation =>
    have hcreated := hnew creation s.host
    rcases hend : creation.run.run s.host with ⟨e | w, t⟩
    · simp only [next, hend]
      exact h
    · rw [ends_of_run hend] at hcreated
      simp only [next, hend]
      exact List.forall_mem_cons.mpr ⟨hcreated w rfl, h⟩
  | act slot op =>
    cases hw : s.widgets[slot]? with
    | none => simpa only [next, hw] using h
    | some w =>
      simp only [next, hw]
      intro w' hw'
      rcases List.mem_or_eq_of_mem_set hw' with hw' | rfl
      · exact h w' hw'
      · exact hrun op (w, s.host) (h w (List.mem_of_getElem? hw))
  | drop slot =>
    cases hw : s.widgets[slot]? with
    | none => simpa only [next, hw] using h
    | some w =>
      simp only [next, hw]
      exact fun w' hw' => h w' (List.mem_of_mem_eraseIdx hw')

theorem forall_run (h : ∀ w ∈ s.widgets, P w) (ops : List (StageOp α σ χ)) :
    ∀ w ∈ (s.run ops).widgets, P w := by
  induction ops generalizing s with
  | nil => exact h
  | cons op ops ih => exact ih (forall_next hnew hrun h op)

end Each

/-- On a host that measures by font and text alone, when it measures, no widget ever answers or
paints with metrics of another text or another font than it has. -/
theorem caches_current
    (hm : ∀ font, Answers (TextHost.measureText font : Measurer α σ) (metrics font)) (host : σ)
    (ops : List (StageOp α σ χ)) :
    let s := (empty host : Stage α σ χ).run ops
    ∀ w ∈ s.widgets, w.Current metrics s.host := by
  intro s w hw
  have hm' (font : FontHandle) :
      Answers (TextHost.measureText font : Measurer α (Traced σ)) (metrics font) :=
    Traced.answers_measureText (hm font)
  have hcached := forall_run (P := Widget.Cached metrics)
    (fun c _ => Widget.ends_create_cached hm' c)
    (fun op => Widget.keeps_run_cached hm' Traced.hearTab Traced.hearSegment op)
    (s := empty host) (fun _ hw => nomatch hw) ops
  exact (hcached w hw).current hm'

end Stage

/-- A host that refuses the calls its script refuses. The letters of a font are as large as its
number. -/
structure Graded where
  host : Scripted Rat

namespace Graded

def call (act : HostM (Scripted Rat) β) : HostM Graded β :=
  HostM.zoom host (fun host _ => ⟨host⟩) act

instance : TextHost Rat Graded where
  createFont style := call (TextHost.createFont style)
  destroyFont font := call (TextHost.destroyFont (α := Rat) font)
  measureText font text := do
    let _ ← call (TextHost.measureText font text)
    return Monospace.metrics (font.id.toNat : Rat) text

instance : PaintHost Rat Graded where

theorem answers_measureText (font : FontHandle) :
    Answers (TextHost.measureText font : Measurer Rat Graded)
      (Monospace.metrics (font.id.toNat : Rat)) := by
  intro text h
  refine (ends_run _ h).bind ?_ fun _ _ _ _ hr => nomatch hr
  rintro m h' - _ ⟨⟩
  rfl

end Graded

namespace Stage

/-- The first new font of a label is given up, as the host keeps the old one; the second one is
taken. A badge is given another font with its first label, and a tooltip two. -/
def restyled : Stage Rat Graded (Timing Rat) :=
  let style : TextStyle Rat := .withFamily "Sans"
  let tip : TooltipStyle Rat := { TooltipStyle.rich with title := style, body := style }
  (empty ⟨.start [false, false, false, true]⟩).run
    [.build (.label style "label"), .act 0 (.label .metrics), .act 0 (.label (.setStyle style)),
      .act 0 (.label .metrics), .act 0 (.label (.setStyle style)), .act 0 (.label .metrics),
      .build (.badge .default none), .act 0 (.badge (.setLabel (some "3"))),
      .build (.tooltip tip (.point 0 0) .default "body"), .act 0 (.tooltip .content),
      .act 0 (.tooltip (.setTitle (some "title"))), .act 0 (.tooltip .content)]

theorem caches_current_restyled :
    (∀ font, Answers (TextHost.measureText font : Measurer Rat Graded)
      (Monospace.metrics (font.id.toNat : Rat))) ∧
    restyled.widgets.map Widget.heldFonts = [[⟨5, 1⟩, ⟨6, 1⟩], [⟨4, 1⟩], [⟨3, 1⟩]] ∧
    (restyled.widgets.filterMap fun
      | .label l => l.metrics?
      | _ => none) = [Monospace.metrics 3 "label"] ∧
    ∀ w ∈ restyled.widgets,
      w.Current (fun font => Monospace.metrics (font.id.toNat : Rat)) restyled.host :=
  ⟨Graded.answers_measureText, by decide +kernel, by decide +kernel,
    caches_current Graded.answers_measureText _ _⟩

end Stage

end Widgetry
