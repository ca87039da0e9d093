import Widgetry.Proofs.Flags.Painting
import Widgetry.Proofs.Reachable
import Widgetry.Proofs.Sharing.Orders
import Widgetry.Proofs.WholeOrNothing

/-! What the flags of a widget do. While it is disabled no event reaches it: a run of which such
events are struck out is answered the same and leads to the same. That it is hidden makes no
difference to how it is painted. -/
namespace Widgetry

variable {α τ χ ω β : Type}

namespace Widget

variable {w : Widget α τ χ} {h : τ}

theorem ends_setFlags {flags : WidgetFlags} {post : Except Error Unit → Widget α τ χ × τ → Prop} :
    Ends (setFlags flags) (w, h) post ↔ post (.ok ()) (w.withFlags flags, h) := by
  cases w <;> exact Iff.rfl

/-- Sets or clears one flag and leaves the others. -/
def assignFlag (flag : UInt32) (on : Bool) : Step (Widget α τ χ) τ Unit := do
  setFlags ((← Step.self).flags.assign flag on)

theorem ends_assignFlag {flag : UInt32} {on : Bool}
    {post : Except Error Unit → Widget α τ χ × τ → Prop} :
    Ends (assignFlag flag on) (w, h) post ↔
      post (.ok ()) (w.withFlags (w.flags.assign flag on), h) := by
  rw [assignFlag, ends_bind, Step.ends_self]
  exact ends_setFlags

section Events

variable [Scalar α] [TextHost α τ] [Channel α τ χ]

theorem ends_handleEvent_disabled (hd : w.flags.has WidgetFlags.disabled) {event : InputEvent}
    {post : Except Error Bool → Widget α τ χ × τ → Prop} :
    Ends (handleEvent event) (w, h) post ↔ post (.ok false) (w, h) := by
  cases w with
  | tabs row => exact ends_dispatch_tabs.trans (TabRow.ends_handleEvent_disabled hd)
  | segmented group =>
    exact ends_dispatch_segmented.trans (SegmentGroup.ends_handleEvent_disabled hd)
  | label l => exact Iff.rfl
  | badge b => exact Iff.rfl
  | tooltip tip => exact Iff.rfl

/-- Events one after the other, and which of them are taken. -/
def takes (events : List InputEvent) : Step (Widget α τ χ) τ (List Bool) :=
  events.mapM handleEvent

theorem ends_takes_disabled (hd : w.flags.has WidgetFlags.disabled) (events : List InputEvent)
    {post : Except Error (List Bool) → Widget α τ χ × τ → Prop} :
    Ends (takes events) (w, h) post ↔ post (.ok (events.map fun _ => false)) (w, h) := by
  induction events generalizing post with
  | nil => exact Iff.rfl
  | cons event events ih =>
    rw [takes, List.mapM_cons, ends_bind, ends_handleEvent_disabled hd]
    dsimp only
    rw [ends_bind, ← takes, ih]
    exact Iff.rfl

/-- Disables the widget while the events come. -/
def disabledFor (events : List InputEvent) : Step (Widget α τ χ) τ (List Bool) := do
  assignFlag WidgetFlags.disabled true
  let taken ← takes events
  assignFlag WidgetFlags.disabled false
  return taken

/-- It comes out of it as it went in. -/
theorem ends_disabledFor (he : w.flags.has WidgetFlags.disabled = false) (events : List InputEvent)
    {post : Except Error (List Bool) → Widget α τ χ × τ → Prop} :
    Ends (disabledFor events) (w, h) post ↔ post (.ok (events.map fun _ => false)) (w, h) := by
  have hd : (w.withFlags (w.flags.set WidgetFlags.disabled)).flags.has WidgetFlags.disabled := by
    rw [flags_withFlags]
    exact WidgetFlags.has_set (by decide)
  simp only [disabledFor, ends_bind, ends_assignFlag, WidgetFlags.assign_true,
    ends_takes_disabled hd, WidgetFlags.assign_false, flags_withFlags, withFlags_withFlags,
    WidgetFlags.clear_set he, withFlags_flags, ends_pure]

end Events

/-- The event that an operation brings to a widget of its kind. -/
def eventFor : Widget α τ χ → WidgetOp α τ → Option InputEvent
  | tabs _, .tabs (.event event) | segmented _, .segmented (.event event)
  | label _, .label (.event event) | badge _, .badge (.event event)
  | tooltip _, .tooltip (.event event) => some event
  | _, _ => none

end Widget

/-- One thing that is asked of a widget on its host, and what comes of it. -/
structure Exchange (α τ χ : Type) where
  before : Widget α τ χ × τ
  op : WidgetOp α τ
  answer : Except Error (Reply α)
  after : Widget α τ χ × τ

/-- An event comes while the widget is disabled. -/
def Exchange.unheard (x : Exchange α τ χ) : Bool :=
  x.before.1.flags.has WidgetFlags.disabled && (x.before.1.eventFor x.op).isSome

/-- Without the events that come while the widget is disabled. -/
def heard (talk : List (Exchange α τ χ)) : List (Exchange α τ χ) := talk.filter (!·.unheard)

namespace Widget

variable [Scalar α] [TextHost α τ] [PaintHost α τ] [Channel α τ χ]

def exchange (p : Widget α τ χ × τ) (op : WidgetOp α τ) : Exchange α τ χ :=
  let (answer, after) := (op.ask id id).run p
  ⟨p, op, answer, after⟩

/-- Asks for one thing after the other. Where that leads to in the end stands beside. -/
def converse (p : Widget α τ χ × τ) :
    List (WidgetOp α τ) → List (Exchange α τ χ) × Widget α τ χ × τ
  | [] => ([], p)
  | op :: ops =>
    let (rest, last) := converse (exchange p op).after ops
    (exchange p op :: rest, last)

theorem ends_ask_event {w : Widget α τ χ} {h : τ} {op : WidgetOp α τ} {event : InputEvent}
    (hop : w.eventFor op = some event)
    {post : Except Error (Reply α) → Widget α τ χ × τ → Prop} :
    Ends (op.ask id id) (w, h) post ↔
      Ends (handleEvent event) (w, h) fun r q => post (r.map .flag) q := by
  unfold eventFor at hop
  split at hop
  · obtain rfl := Option.some.inj hop
    exact ends_dispatch_tabs.trans ends_told
  · obtain rfl := Option.some.inj hop
    exact ends_dispatch_segmented.trans ends_told
  · obtain rfl := Option.some.inj hop
    exact ends_dispatch_label.trans ends_told
  · obtain rfl := Option.some.inj hop
    exact ends_dispatch_badge.trans ends_told
  · obtain rfl := Option.some.inj hop
    exact ends_dispatch_tooltip.trans ends_told
  · exact nomatch hop

variable {p : Widget α τ χ × τ} {op : WidgetOp α τ}

theorem exchange_unheard (hx : (exchange p op).unheard) :
    (exchange p op).answer = .ok (.flag false) ∧ (exchange p op).after = p := by
  obtain ⟨hd, hop⟩ : p.1.flags.has WidgetFlags.disabled = true ∧ (p.1.eventFor op).isSome = true :=
    Bool.and_eq_true_iff.mp hx
  obtain ⟨event, hevent⟩ := Option.isSome_iff_exists.mp hop
  have hends : Ends (op.ask id id) p fun r q => r = .ok (.flag false) ∧ q = p :=
    (ends_ask_event hevent).mpr ((ends_handleEvent_disabled hd).mpr ⟨rfl, rfl⟩)
  exact hends

theorem unheard_of_mem_converse (ops : List (WidgetOp α τ)) :
    ∀ x ∈ (converse p ops).1, x.unheard → x.answer = .ok (.flag false) ∧ x.after = x.before := by
  induction ops generalizing p with
  | nil => exact fun _ hx => nomatch hx
  | cons op ops ih => exact List.forall_mem_cons.mpr ⟨exchange_unheard, ih⟩

/-- What goes unheard can be struck out. -/
theorem converse_heard (ops : List (WidgetOp α τ)) :
    converse p ((heard (converse p ops).1).map Exchange.op) =
      (heard (converse p ops).1, (converse p ops).2) := by
  induction ops generalizing p with
  | nil => rfl
  | cons op ops ih =>
    have hcons : converse p (op :: ops) =
        (exchange p op :: (converse (exchange p op).after ops).1,
          (converse (exchange p op).after ops).2) := rfl
    by_cases hx : (exchange p op).unheard = true
    · have hheard : heard (converse p (op :: ops)).1 = heard (converse p ops).1 := by
        rw [hcons, (exchange_unheard hx).2, heard, List.filter_cons_of_neg (by simp [hx]), heard]
      rw [hheard, ih, hcons, (exchange_unheard hx).2]
    · have hheard : heard (converse p (op :: ops)).1 =
          exchange p op :: heard (converse (exchange p op).after ops).1 := by
        rw [hcons, heard, List.filter_cons_of_pos (by simp [hx]), heard]
      rw [hheard, hcons, List.map_cons]
      change converse p (op :: _) = _
      rw [converse, ih]

/-- What its flags do to a widget, whatever has become of it and of its host. -/
structure FlagsOnlyDisable (w : Widget α τ χ) (h : τ) : Prop where
  /-- Under flags that disable it no event is taken, and none has any effect. -/
  mute : ∀ flags, flags.has WidgetFlags.disabled → ∀ events,
    Ends (do setFlags flags; takes events) (w, h) fun r p =>
      r = .ok (events.map fun _ => false) ∧ p = (w.withFlags flags, h)
  /-- Disabled for a time, it is afterwards as it was. -/
  restored : w.flags.has WidgetFlags.disabled = false → ∀ events,
    Ends (disabledFor events) (w, h) fun r p =>
      r = .ok (events.map fun _ => false) ∧ p = (w, h)
  /-- Of all that is asked of it, what goes unheard is answered false and has no effect. If it is
  never asked, all else is answered the same and leads to the same. -/
  struck : ∀ ops,
    (∀ x ∈ (converse (w, h) ops).1, x.unheard →
      x.answer = .ok (.flag false) ∧ x.after = x.before) ∧
    converse (w, h) ((heard (converse (w, h) ops).1).map Exchange.op) =
      (heard (converse (w, h) ops).1, (converse (w, h) ops).2)
  /-- Hidden or not, it asks its painter for the same, ends in the same way and is left the same. -/
  painted : ∀ flags : WidgetFlags,
    Ends paint (w.withFlags flags, h) fun r p =>
      Ends paint (w.withFlags (flags.clear WidgetFlags.hidden), h) fun r' q =>
        r = r' ∧ p.1 = q.1.withFlags flags ∧ p.2 = q.2

/-- Flags disable a widget and do nothing else to it: a hidden one is painted. -/
theorem flags_only_disable (w : Widget α τ χ) (h : τ) : w.FlagsOnlyDisable h where
  mute flags hd events := by
    rw [ends_bind, ends_setFlags]
    exact (ends_takes_disabled ((flags_withFlags flags w).symm ▸ hd) events).mpr ⟨rfl, rfl⟩
  restored he events := (ends_disabledFor he events).mpr ⟨rfl, rfl⟩
  struck ops := ⟨unheard_of_mem_converse ops, converse_heard ops⟩
  painted flags := ends_paint_withFlags (WidgetFlags.has_clear (by decide)).symm w h

/-- A new widget after these operations, made on a blank pad. -/
def worked (creation : Creation Binary32 (Timing Binary32)) (ops : List (WidgetOp Binary32 Pad)) :
    Option (Widget Binary32 Pad (Timing Binary32)) :=
  match creation.run.run blankPad with
  | (.ok w, t) => some (ops.foldl (fun p op => ((op.run id id).run p).2) (w, t)).1
  | (.error _, _) => none

theorem made_of_worked {creation : Creation Binary32 (Timing Binary32)}
    {ops : List (WidgetOp Binary32 Pad)} {w : Widget Binary32 Pad (Timing Binary32)}
    (hw : worked creation ops = some w) : w.Made := by
  have hfold (p : Widget Binary32 Pad (Timing Binary32) × Pad) (hp : p.1.Made) :
      (ops.foldl (fun p op => ((op.run id id).run p).2) p).1.Made := by
    clear hw
    induction ops generalizing p with
    | nil => exact hp
    | cons op ops ih => exact ih _ (hp.operated op p.2)
  unfold worked at hw
  split at hw
  next new t hnew =>
    obtain rfl := Option.some.inj hw
    exact hfold (new, t) (.created hnew)
  next => exact nomatch hw

/-- A row of two tabs, laid out, with the first of them selected. -/
def twoTabs : Option (Widget Binary32 Pad (Timing Binary32)) :=
  worked
    (.tabs { TabStyle.default with text := .withFamily "Sans" } ["One", "Two"] (some 0) .idle .idle)
    [.tabs (.layout ⟨0, 0, 200, 48⟩)]

/-- The second tab is pressed. The release that comes while the row is disabled is not heard, and
neither is another press; the one that comes afterwards is. -/
def interrupted : List (WidgetOp Binary32 Pad) :=
  [.tabs (.event (.pointerDown ⟨150, 24⟩)), .tabs (.setDisabled true),
    .tabs (.event (.pointerUp ⟨50, 24⟩)), .tabs (.event (.pointerDown ⟨50, 24⟩)),
    .tabs (.setDisabled false), .tabs (.event (.pointerUp ⟨150, 24⟩))]

theorem flags_only_disable_interrupted : ∃ w, twoTabs = some w ∧ w.Made ∧
    w.flags.has WidgetFlags.disabled = false ∧
    (converse (w, blankPad) interrupted).1.map Exchange.answer =
      [.ok (.flag true), .ok .done, .ok (.flag false), .ok (.flag false), .ok .done,
        .ok (.flag true)] ∧
    (heard (converse (w, blankPad) interrupted).1).length = 4 ∧
    w.FlagsOnlyDisable blankPad := by
  have hrun : twoTabs.map (fun w => (w.flags.has WidgetFlags.disabled,
      (converse (w, blankPad) interrupted).1.map Exchange.answer,
      (heard (converse (w, blankPad) interrupted).1).length)) = some (false,
        [.ok (.flag true), .ok .done, .ok (.flag false), .ok (.flag false), .ok .done,
          .ok (.flag true)], 4) := by
    decide +kernel
  obtain ⟨w, hw, hrest⟩ := Option.map_eq_some_iff.mp hrun
  obtain ⟨he, hanswers, hlength⟩ : _ ∧ _ ∧ _ := by simpa only [Prod.mk.injEq] using hrest
  exact ⟨w, hw, made_of_worked hw, he, hanswers, hlength, flags_only_disable w blankPad⟩

/-- One widget of each kind, laid out and then hidden. -/
def hiddenWidgets : List (Widget Binary32 Pad (Timing Binary32)) :=
  let style : TextStyle Binary32 := .withFamily "Sans"
  let bounds : Rect Binary32 := ⟨0, 0, 200, 48⟩
  let hidden : WidgetFlags := ⟨WidgetFlags.hidden⟩
  [(.tabs { TabStyle.default with text := style } ["One", "Two"] (some 0) .idle .idle,
      [.tabs (.layout bounds), .tabs (.setFlags hidden)]),
    (.segmented { SegmentStyle.default with text := style } ["One", "Two"] (.single none),
      [.segmented (.layout bounds), .segmented (.setFlags hidden)]),
    (.label style "Hello", [.label (.layout bounds), .label (.setFlags hidden)]),
    (.badge .default none, [.badge (.layout bounds), .badge (.setFlags hidden)]),
    (.tooltip { TooltipStyle.plain with text := style } (.point 20 20) .default "Saved",
      [.tooltip (.layout bounds), .tooltip (.setFlags hidden)])].filterMap
    fun (creation, ops) => worked creation ops

theorem hidden_painted :
    hiddenWidgets.map kind = [.tabs, .segmented, .label, .badge, .tooltip] ∧
    ∀ w ∈ hiddenWidgets, w.Made ∧ w.flags.has WidgetFlags.hidden ∧
      Ends paint (w, blankPad) fun r p => r = .ok () ∧ p.2.commands ≠ [] := by
  have hkinds : hiddenWidgets.map kind = [.tabs, .segmented, .label, .badge, .tooltip] := by
    decide +kernel
  have hpainted : ∀ w ∈ hiddenWidgets, w.flags.has WidgetFlags.hidden = true ∧
      (paint.run (w, blankPad)).1 = .ok () ∧ (paint.run (w, blankPad)).2.2.commands ≠ [] := by
    decide +kernel
  refine ⟨hkinds, fun w hw => ⟨?_, hpainted w hw⟩⟩
  obtain ⟨⟨creation, ops⟩, -, hworked⟩ := List.mem_filterMap.mp hw
  exact made_of_worked hworked

end Widget

end Widgetry
