import Widgetry.Proofs.Host.Measuring
import Widgetry.Segmented.Group

/-! Measuring, hit testing and painting leave a group of segments as it is and need nothing of the
host but measured labels and a surface to draw on. A new group is as it was asked for, and a
disabled one takes no event. -/
namespace Widgetry.SegmentGroup

open Step (At)

variable {α σ β : Type} {group : SegmentGroup α σ} {inv : σ → Prop}

theorem keeps_self_bind {f : SegmentGroup α σ → Step (SegmentGroup α σ) σ β}
    (hf : Keeps (At id group inv) (f group)) : Keeps (At id group inv) (Step.self >>= f) := by
  refine Step.keeps_at_self fun w hw => ?_
  rwa [← (hw : w = group)] at hf ⊢

variable [Scalar α] [TextHost α σ]

theorem keeps_currentLayout (hm : group.font.Measures α inv) :
    Keeps (At id group inv) (currentLayout : Step (SegmentGroup α σ) σ (SegmentLayout α)) := by
  refine keeps_self_bind ?_
  refine OwnedFont.keeps_measurer hm fun measurer h => ?_
  exact Step.keeps_at_host (group.style.keeps_computeLayout h _ _)

theorem keeps_measure (hm : group.font.Measures α inv) (width height : MeasureSpec α) :
    Keeps (At id group inv) (measure width height : Step (SegmentGroup α σ) σ (Size α)) := by
  refine (Step.keeps_check _).bind fun _ => ?_
  refine (Step.keeps_check _).bind fun _ => ?_
  refine keeps_self_bind ?_
  refine OwnedFont.keeps_measurer hm fun measurer h => ?_
  exact (Step.keeps_at_host (group.style.keeps_measureContent h _)).bind fun _ => .pure _

theorem keeps_hit (hm : group.font.Measures α inv) (point : Point) :
    Keeps (At id group inv) (hit point : Step (SegmentGroup α σ) σ (Option Nat)) := by
  refine (keeps_currentLayout hm).bind fun layout => ?_
  refine keeps_self_bind ?_
  exact Step.keeps_check _

/-- What is left of a group that was destroyed. -/
def cleared (group : SegmentGroup α σ) : SegmentGroup α σ :=
  { group with
    items := []
    selection := group.selection.cleared
    pressed := none
    bounds := .zero
    onSelect := none }

/-- The group is cleared whether its font could be given back or not. -/
theorem ends_destroy {h : σ} {post : Except Error Unit → SegmentGroup α σ × σ → Prop} :
    Ends destroy (group, h) post ↔
      Ends (onFont OwnedFont.release) (group, h) fun r q => post r (q.1.cleared, q.2) := by
  rw [destroy, ends_bind, ends_outcome]
  simp only [Step.ends_update, Step.ends_check, ends_bind]
  exact Iff.rfl

/-- A group that is made was checked. -/
theorem ends_create_ok (style : SegmentStyle α) (items : List String) (selection : Selection)
    (h : σ) :
    Ends (create style items selection) h fun r _ => ∀ group, r = .ok group →
      selection.validate items.length = .ok () ∧ ∃ font, group = {
        style, items, selection, font
        flags := ⟨WidgetFlags.focusable⟩
        pressed := none
        bounds := .zero
        onSelect := none } := by
  refine .of_check (fun _ _ => ?_) fun _ _ _ hr => (error_ne_ok hr).elim
  refine .of_check (fun _ hselection => ?_) fun _ _ _ hr => (error_ne_ok hr).elim
  refine Ends.bind (ends_run _ _) (fun font h₀ _ => ?_) fun _ _ _ _ hr => (error_ne_ok hr).elim
  rintro _ ⟨⟩
  exact ⟨hselection, font, rfl⟩

theorem ends_handleEvent_disabled {p : SegmentGroup α σ × σ} {event : InputEvent}
    {post : Except Error Bool → SegmentGroup α σ × σ → Prop}
    (hd : p.1.flags.has WidgetFlags.disabled) :
    Ends (handleEvent event) p post ↔ post (.ok false) p := by
  unfold handleEvent
  rw [ends_bind, Step.ends_self]
  cases event
  all_goals
    dsimp only
    rw [if_pos hd, ends_pure]

variable [PaintHost α σ]

theorem keeps_paintSegment {font : FontHandle}
    (hm : ∀ text, Keeps inv (TextHost.measureText font text))
    (hr : DrawsRects α inv)
    (hd : ∀ text x y color, Keeps inv (PaintHost.drawText (α := α) font text x y color))
    (layout : SegmentLayout α) (index : Nat) (last : Bool) (item : String) :
    Keeps inv (group.paintSegment font layout index last item) := by
  refine (Keeps.liftExcept _).bind fun segment => ?_
  have houtline : Keeps inv (group.paintOutline segment (group.cornerOf index last)
      (group.style.segmentColors (group.selection.isSelected index)
        (group.flags.has WidgetFlags.disabled))) := by
    refine .ite (fun _ => ?_) fun _ => .pure _
    refine (hr _ _ _).bind fun _ => ?_
    exact (Keeps.liftExcept _).bind fun _ => .pure _
  refine houtline.bind fun inner => ?_
  refine Keeps.bind (.ite (fun _ => hr _ _ _) fun _ => .pure ()) fun _ => ?_
  refine .ite (fun _ => .pure ()) fun _ => ?_
  exact (hm item).bind fun text => hd _ _ _ _

theorem keeps_paintSegments {font : FontHandle}
    (hm : ∀ text, Keeps inv (TextHost.measureText font text))
    (hr : DrawsRects α inv)
    (hd : ∀ text x y color, Keeps inv (PaintHost.drawText (α := α) font text x y color))
    (layout : SegmentLayout α) (index : Nat) (items : List String) :
    Keeps inv (group.paintSegments font layout index items) := by
  induction items generalizing index with
  | nil => exact .pure ()
  | cons item rest ih =>
    exact (keeps_paintSegment hm hr hd layout index _ item).bind fun _ => ih (index + 1)

theorem keeps_paint (hm : group.font.Measures α inv) (hr : DrawsRects α inv)
    (hd : group.font.Draws α inv) :
    Keeps (At id group inv) (paint : Step (SegmentGroup α σ) σ Unit) := by
  refine (keeps_currentLayout hm).bind fun layout => ?_
  refine keeps_self_bind ?_
  refine OwnedFont.keeps_handle fun font hf => ?_
  exact Step.keeps_at_host (keeps_paintSegments (hm font hf) hr (hd font hf) layout 0 group.items)

end Widgetry.SegmentGroup
