import Widgetry.Proofs.Operations

/-! The states to which a program can bring a row, a group, a tooltip or a widget of any kind. An
operation that fails leads to a state like any other. -/
namespace Widgetry

variable {α σ τ χ : Type} [Scalar α] [TextHost α τ] [PaintHost α τ]

/-- Listeners reach the row through `hear`. -/
inductive TabRow.Reachable [Channel α τ χ] (hear : TabListener σ → TabListener τ) :
    TabRow α τ χ × τ → Prop
  | created {style : TabStyle α} {items : List String} {selected : Option Nat}
      {positionChannel widthChannel : χ} {h h' : τ} {row : TabRow α τ χ}
      (run : (create style items selected positionChannel widthChannel).run h = (.ok row, h')) :
      Reachable hear (row, h')
  | operated {p : TabRow α τ χ × τ} (op : TabOp α σ) (reached : Reachable hear p) :
      Reachable hear ((op.run hear).run p).2

/-- Listeners reach the group through `hear`. -/
inductive SegmentGroup.Reachable (hear : SegmentListener σ → SegmentListener τ) :
    SegmentGroup α τ × τ → Prop
  | created {style : SegmentStyle α} {items : List String} {selection : Selection} {h h' : τ}
      {group : SegmentGroup α τ} (run : (create style items selection).run h = (.ok group, h')) :
      Reachable hear (group, h')
  | operated {p : SegmentGroup α τ × τ} (op : SegmentOp α σ) (reached : Reachable hear p) :
      Reachable hear ((op.run hear).run p).2

/-- A tooltip that a program has made. Its host may be in any state before an operation, as there
are others that use it. -/
inductive Tooltip.Made (τ : Type) [TextHost α τ] [PaintHost α τ] : Tooltip α → Prop
  | created {style : TooltipStyle α} {anchor : TooltipAnchor α} {placement : TooltipPlacement}
      {body : String} {h h' : τ} {tip : Tooltip α}
      (run : (create style anchor placement body).run h = (.ok tip, h')) : Made τ tip
  | operated {tip : Tooltip α} (op : TooltipOp α) (h : τ) (made : Made τ tip) :
      Made τ (op.run.run (tip, h)).2.1

/-- A widget of any kind that a program has made, on a host that others use too. -/
inductive Widget.Made [Channel α τ χ] : Widget α τ χ → Prop
  | created {creation : Creation α χ} {h h' : τ} {w : Widget α τ χ}
      (run : creation.run.run h = (.ok w, h')) : Made w
  | operated {w : Widget α τ χ} (op : WidgetOp α τ) (h : τ) (made : Made w) :
      Made ((op.run id id).run (w, h)).2.1

/-- What holds of a new row and survives every operation holds of every reachable one. -/
theorem TabRow.Reachable.invariant [Channel α τ χ] {hear : TabListener σ → TabListener τ}
    {p : TabRow α τ χ × τ} (hp : Reachable hear p) (inv : TabRow α τ χ × τ → Prop)
    (created : ∀ style items selected positionChannel widthChannel h,
      Ends (create style items selected positionChannel widthChannel) h fun r h' =>
        ∀ row, r = .ok row → inv (row, h'))
    (operated : ∀ op : TabOp α σ, Keeps inv (op.run hear)) : inv p := by
  induction hp with
  | created run => exact (ends_of_run run).mp (created _ _ _ _ _ _) _ rfl
  | operated op _ ih => exact operated op _ ih

theorem TabRow.Reachable.after [Channel α τ χ] {hear : TabListener σ → TabListener τ}
    {p : TabRow α τ χ × τ} (hp : Reachable hear p) (ops : List (TabOp α σ)) :
    Reachable hear (ops.foldl (fun p op => ((op.run hear).run p).2) p) := by
  induction ops generalizing p with
  | nil => exact hp
  | cons op ops ih => exact ih (hp.operated op)

theorem SegmentGroup.Reachable.invariant {hear : SegmentListener σ → SegmentListener τ}
    {p : SegmentGroup α τ × τ} (hp : Reachable hear p) (inv : SegmentGroup α τ × τ → Prop)
    (created : ∀ style items selection h,
      Ends (create style items selection) h fun r h' => ∀ group, r = .ok group → inv (group, h'))
    (operated : ∀ op : SegmentOp α σ, Keeps inv (op.run hear)) : inv p := by
  induction hp with
  | created run => exact (ends_of_run run).mp (created _ _ _ _) _ rfl
  | operated op _ ih => exact operated op _ ih

theorem Tooltip.Made.invariant {tip : Tooltip α} (htip : tip.Made τ) (inv : Tooltip α → Prop)
    (created : ∀ style anchor placement body (h : τ),
      Ends (create style anchor placement body) h fun r _ => ∀ tip, r = .ok tip → inv tip)
    (operated : ∀ op : TooltipOp α, Keeps (fun p => inv p.1) (op.run : Step (Tooltip α) τ Unit)) :
    inv tip := by
  induction htip with
  | created run => exact (ends_of_run run).mp (created _ _ _ _ _) _ rfl
  | operated op h _ ih => exact operated op (_, h) ih

theorem Widget.Made.invariant [Channel α τ χ] {w : Widget α τ χ} (hw : w.Made)
    (inv : Widget α τ χ → Prop)
    (created : ∀ (creation : Creation α χ) (h : τ),
      Ends creation.run h fun r _ => ∀ w : Widget α τ χ, r = .ok w → inv w)
    (operated : ∀ op : WidgetOp α τ, Keeps (fun p : Widget α τ χ × τ => inv p.1) (op.run id id)) :
    inv w := by
  induction hw with
  | created run => exact (ends_of_run run).mp (created _ _) _ rfl
  | operated op h _ ih => exact operated op (_, h) ih

namespace Widget

/-- If it is a tooltip, it is one that a program has made. -/
def TooltipMade : Widget α τ χ → Prop
  | tooltip tip => tip.Made τ
  | tabs _ | segmented _ | label _ | badge _ => True

omit [Scalar α] [TextHost α τ] [PaintHost α τ] in
theorem ends_wrapped {ω : Type} {act : HostM τ ω} {wrap : ω → Widget α τ χ}
    {P : Widget α τ χ → Prop} {h : τ} (hmade : ∀ w h', act.run h = (.ok w, h') → P (wrap w)) :
    Ends (do return wrap (← act)) h fun r _ => ∀ w, r = .ok w → P w := by
  refine (ends_run act h).bind ?_ fun _ _ _ _ hr => nomatch hr
  rintro w h' hrun _ ⟨⟩
  exact hmade w h' hrun

variable [Channel α τ χ]

theorem ends_create_tooltipMade (c : Creation α χ) {h : τ} :
    Ends c.run h fun r _ => ∀ w : Widget α τ χ, r = .ok w → w.TooltipMade := by
  cases c with
  | tabs style items selected positionChannel widthChannel =>
    exact ends_wrapped fun _ _ _ => trivial
  | segmented style items selection => exact ends_wrapped fun _ _ _ => trivial
  | label style text => exact ends_wrapped fun _ _ _ => trivial
  | badge style text? => exact ends_wrapped fun _ _ _ => trivial
  | tooltip style anchor placement body => exact ends_wrapped fun _ _ hrun => .created hrun

theorem keeps_run_tooltipMade (op : WidgetOp α τ) :
    Keeps (fun p : Widget α τ χ × τ => p.1.TooltipMade) (op.run id id) := by
  rintro ⟨w, h⟩ hw
  cases w with
  | tabs row => cases op <;> exact ends_dispatch_tabs.mpr trivial
  | segmented group => cases op <;> exact ends_dispatch_segmented.mpr trivial
  | label l => cases op <;> exact ends_dispatch_label.mpr trivial
  | badge b => cases op <;> exact ends_dispatch_badge.mpr trivial
  | tooltip tip =>
    cases op with
    | tooltip op => exact ends_dispatch_tooltip.mpr (.operated op h hw)
    | tabs op => exact ends_dispatch_tooltip.mpr hw
    | segmented op => exact ends_dispatch_tooltip.mpr hw
    | label op => exact ends_dispatch_tooltip.mpr hw
    | badge op => exact ends_dispatch_tooltip.mpr hw

theorem Made.tooltip {tip : Tooltip α} (h : (Widget.tooltip tip : Widget α τ χ).Made) :
    tip.Made τ :=
  h.invariant TooltipMade (fun c _ => ends_create_tooltipMade c) keeps_run_tooltipMade

end Widget

end Widgetry
