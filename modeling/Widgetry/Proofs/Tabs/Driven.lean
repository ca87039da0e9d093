import Widgetry.Proofs.Animation.Arrival
import Widgetry.Proofs.Reachable
import Widgetry.Proofs.Sheet.Gate
import Widgetry.Proofs.Tabs.Core
import Widgetry.Proofs.Tabs.Tracking

/-! What drives an indicator. A channel is given no time or the duration of a style that was
checked, so whatever is done to a row, its clocks are numbers that are not below zero. -/
namespace Widgetry

open Binary (Amount)

variable {σ τ β : Type}

theorem amount_of_admitted {x : Binary32} (h : ¬(Scalar.isNaN x = true ∨ x < 0)) : x.Amount :=
  ⟨fun hnan => h (.inl hnan), not_lt_zero_iff.mp fun hneg => h (.inr hneg)⟩

theorem TabStyle.amount_indicatorDuration {s : TabStyle Binary32} {requireFamily : Bool}
    (h : s.validate requireFamily = .ok ()) : s.indicatorDuration.Amount := by
  obtain ⟨_, hlengths, -⟩ := Validate.bind_eq_ok.mp h
  have hduration := Validate.lengths_eq_ok.mp hlengths s.indicatorDuration (by simp [lengths])
  exact amount_of_admitted fun h => h.elim (ne_true_of_eq_false hduration.1) hduration.2

namespace TabRow

/-- A checked style, and clocks that are numbers not below zero. -/
structure Driven (row : TabRow Binary32 τ (Timing Binary32)) : Prop where
  style : row.style.validate true = .ok ()
  position : row.positionChannel.Clocked
  width : row.widthChannel.Clocked

/-- What a row drives its indicator with. -/
def drive (row : TabRow Binary32 τ (Timing Binary32)) :
    TabStyle Binary32 × Timing Binary32 × Timing Binary32 :=
  (row.style, row.positionChannel, row.widthChannel)

variable {row row' : TabRow Binary32 τ (Timing Binary32)} {h : τ}

theorem Driven.of_drive (hd : Driven row) (hs : row'.drive = row.drive) : Driven row' := by
  obtain ⟨hstyle, hchannels⟩ := Prod.mk.inj hs
  obtain ⟨hposition, hwidth⟩ := Prod.mk.inj hchannels
  exact ⟨hstyle ▸ hd.style, hposition ▸ hd.position, hwidth ▸ hd.width⟩

theorem driven_update
    {f : TabRow Binary32 τ (Timing Binary32) → TabRow Binary32 τ (Timing Binary32)}
    (hf : ∀ row, (f row).drive = row.drive) :
    Keeps (fun p => Driven p.1) (Step.update f : Step _ τ Unit) :=
  Step.keeps_update fun row _ hd => hd.of_drive (hf row)

theorem driven_host (act : HostM τ β) :
    Keeps (fun p => Driven p.1)
      (Step.host act : Step (TabRow Binary32 τ (Timing Binary32)) τ β) :=
  Step.keeps_host fun _ _ hd => hd

theorem driven_onFont (act : Step OwnedFont τ Unit) :
    Keeps (fun p => Driven p.1) (onFont act : Step (TabRow Binary32 τ (Timing Binary32)) τ Unit) :=
  Step.keeps_zoom (fun _ => rfl) fun _ p hp =>
    (ends_run act p).imp fun _ _ _ => ⟨hp.style, hp.position, hp.width⟩

theorem driven_release :
    Keeps (fun p => Driven p.1) (release : Step (TabRow Binary32 τ (Timing Binary32)) τ Unit) :=
  driven_update fun _ => rfl

theorem Driven.turn {dt : Binary32} (hd : Driven row) (hdt : dt.Amount) :
    Driven (row.turned dt) :=
  ⟨hd.style, Dial.clocked_turn (d := row.positionDial) hd.position hdt,
    Dial.clocked_turn (d := row.widthDial) hd.width hdt⟩

theorem driven_step (dt : Binary32) :
    Keeps (fun p => Driven p.1) (step dt : Step (TabRow Binary32 τ (Timing Binary32)) τ Bool) := by
  rintro ⟨row, h⟩ (hd : Driven row)
  by_cases hdt : Scalar.isNaN dt = true ∨ dt < 0
  · rw [step, if_pos hdt]
    exact hd
  · rw [ends_of_run (step_run hdt)]
    exact hd.turn (amount_of_admitted hdt)

/-- Whatever the channels were before, one duration that is a number not below zero starts both. -/
theorem ends_launch_driven (hvalid : row.style.validate true = .ok ()) {duration : Binary32}
    (hduration : duration.Amount) (start target width target' : Binary32) (easing : Easing) :
    Ends (do
        onPosition (Channel.begin start target duration easing)
        onWidth (Channel.begin width target' duration easing)
        let indicatorStart ← onPosition Channel.value
        let indicatorWidth ← onWidth Channel.value
        Step.update fun row => { row with indicatorStart, indicatorWidth }) (row, h) fun r p =>
      r = .ok () ∧ Driven p.1 := by
  have hneg : ¬duration < 0 := not_lt_zero_iff.mpr hduration.nonNeg
  rw [ends_bind, onPosition, Step.ends_zoom, Timing.ends_begin]
  cases hposition : Timing.begin start target duration easing with
  | error e => exact (hneg (Timing.begin_error hposition)).elim
  | ok positionChannel =>
    dsimp only
    rw [ends_bind, onWidth, Step.ends_zoom, Timing.ends_begin]
    cases hwidth : Timing.begin width target' duration easing with
    | error e => exact (hneg (Timing.begin_error hwidth)).elim
    | ok widthChannel =>
      exact ⟨rfl, hvalid, Timing.clocked_begin hduration hposition,
        Timing.clocked_begin hduration hwidth⟩

section Hosted

variable [TextHost Binary32 τ]

/-- A sync that fails has started nothing. -/
theorem ends_syncIndicator_driven (hvalid : row.style.validate true = .ok ())
    (layout : TabLayout Binary32) (animate : Bool) :
    Ends (syncIndicator layout animate) (row, h) fun r p =>
      r = .ok () ∧ Driven p.1 ∨ p.1 = row ∧ ∃ e, r = .error e := by
  rw [syncIndicator, ends_bind, Step.ends_self]
  refine .of_check (fun measurer _ => ?_) fun e _ => .inr ⟨rfl, e, rfl⟩
  rw [ends_bind, Step.ends_host]
  apply (ends_run _ _).imp
  rintro (e | ⟨start, width⟩) h₁ -
  · exact .inr ⟨rfl, e, rfl⟩
  dsimp only
  split
  · have hduration := TabStyle.amount_indicatorDuration hvalid
    exact (ends_launch_driven hvalid hduration _ _ _ _ _).imp fun _ _ => .inl
  · exact (ends_launch_driven hvalid amount_zero _ _ _ _ _).imp fun _ _ => .inl

theorem driven_syncIndicator (layout : TabLayout Binary32) (animate : Bool) :
    Keeps (fun p => Driven p.1)
      (syncIndicator layout animate : Step (TabRow Binary32 τ (Timing Binary32)) τ Unit) := by
  rintro ⟨row, h⟩ (hd : Driven row)
  apply (ends_syncIndicator_driven hd.style layout animate).imp
  rintro r p (⟨-, hp⟩ | ⟨hp, -⟩)
  · exact hp
  · exact hp ▸ hd

theorem driven_currentLayout :
    Keeps (fun p => Driven p.1)
      (currentLayout : Step (TabRow Binary32 τ (Timing Binary32)) τ _) := by
  refine Step.keeps_self_bind fun _ _ _ => (Step.keeps_check _).bind fun _ => ?_
  exact driven_host _

theorem driven_resnap :
    Keeps (fun p => Driven p.1) (resnap : Step (TabRow Binary32 τ (Timing Binary32)) τ Unit) := by
  refine driven_currentLayout.bind fun layout => Step.keeps_self_bind fun _ _ _ => ?_
  refine (Step.keeps_check _).bind fun scroll => ?_
  refine (driven_syncIndicator layout false).bind fun _ => ?_
  exact driven_update fun _ => rfl

theorem driven_rollBack (previous : Option Nat) (layout : TabLayout Binary32) :
    Keeps (fun p => Driven p.1)
      (rollBack previous layout : Step (TabRow Binary32 τ (Timing Binary32)) τ Unit) := by
  refine Keeps.bind (driven_update fun _ => rfl) fun _ => ?_
  refine (driven_syncIndicator layout false).tryCatch fun _ => ?_
  exact Step.keeps_update fun _ _ hd => ⟨hd.style, Timing.clocked_idle, Timing.clocked_idle⟩

theorem driven_selectOrRollBack (selected : Option Nat) (layout : TabLayout Binary32)
    {accept : Step (TabRow Binary32 τ (Timing Binary32)) τ Unit}
    (ha : Keeps (fun p => Driven p.1) accept) :
    Keeps (fun p => Driven p.1) (selectOrRollBack selected layout accept) := by
  refine Step.keeps_self_bind fun row _ _ => ?_
  refine Keeps.bind (driven_update fun _ => rfl) fun _ => ?_
  refine ((driven_syncIndicator layout true).bind fun _ => ha).tryCatch fun e => ?_
  exact (driven_rollBack _ layout).bind fun _ => .throw e

theorem driven_setItems (items : List String) :
    Keeps (fun p => Driven p.1)
      (setItems items : Step (TabRow Binary32 τ (Timing Binary32)) τ Unit) := by
  rintro ⟨row, h⟩ (hd : Driven row)
  rw [ends_setItems_iff]
  split
  · exact ⟨hd.style, hd.position, hd.width⟩
  · apply driven_resnap.ends (s := (row.refill items, h)) ⟨hd.style, hd.position, hd.width⟩
    rintro (e | ⟨⟩) q hq
    · exact driven_resnap (q.1.restore row, q.2) ⟨hq.style, hq.position, hq.width⟩
    · exact hq

theorem driven_setStyle (style : TabStyle Binary32) :
    Keeps (fun p => Driven p.1)
      (setStyle style : Step (TabRow Binary32 τ (Timing Binary32)) τ Unit) := by
  refine keeps_liftExcept_bind fun _ hvalid => ?_
  refine (driven_host _).bind fun font => ?_
  refine (driven_onFont _).bind fun _ => ?_
  exact Step.keeps_update fun _ _ hd => ⟨hvalid, hd.position, hd.width⟩

theorem driven_setSelected (selected : Option Nat) :
    Keeps (fun p => Driven p.1)
      (setSelected selected : Step (TabRow Binary32 τ (Timing Binary32)) τ Unit) := by
  refine Step.keeps_self_bind fun row _ _ => (Step.keeps_check _).bind fun _ => ?_
  refine .ite (fun _ => driven_update fun _ => rfl) ?_
  exact fun _ => driven_currentLayout.bind fun layout =>
    driven_selectOrRollBack selected layout (.pure ())

theorem driven_setScroll (offset : Binary32) :
    Keeps (fun p => Driven p.1)
      (setScroll offset : Step (TabRow Binary32 τ (Timing Binary32)) τ Unit) := by
  refine .ite (fun _ => .throw _) fun _ => Step.keeps_self_bind fun row _ _ => ?_
  cases row.style.mode with
  | fixed => exact driven_update fun _ => rfl
  | scrollable =>
    refine driven_currentLayout.bind fun layout => (Step.keeps_check _).bind fun scroll => ?_
    exact driven_update fun _ => rfl

theorem driven_measure (width height : MeasureSpec Binary32) :
    Keeps (fun p => Driven p.1)
      (measure width height : Step (TabRow Binary32 τ (Timing Binary32)) τ _) := by
  refine (Step.keeps_check _).bind fun _ => (Step.keeps_check _).bind fun _ => ?_
  refine Step.keeps_self_bind fun _ _ _ => (Step.keeps_check _).bind fun _ => ?_
  exact (driven_host _).bind fun _ => .pure _

theorem driven_layout (bounds : Rect Binary32) :
    Keeps (fun p => Driven p.1)
      (layout bounds : Step (TabRow Binary32 τ (Timing Binary32)) τ Unit) := by
  refine (Step.keeps_check _).bind fun _ => Step.keeps_self_bind fun row _ _ => ?_
  refine (Step.keeps_check _).bind fun _ => ?_
  refine (driven_host _).bind fun layout => ?_
  refine (Step.keeps_check _).bind fun scroll => ?_
  refine Keeps.bind ?_ fun _ => driven_update fun _ => rfl
  refine (driven_syncIndicator layout false).tryCatch fun e => ?_
  refine .ite (fun _ => .throw e) fun _ => ?_
  exact (Step.keeps_attempt driven_resnap).bind fun _ => .throw e

theorem driven_hit (point : Point) :
    Keeps (fun p => Driven p.1) (hit point : Step (TabRow Binary32 τ (Timing Binary32)) τ _) := by
  refine driven_currentLayout.bind fun layout => Step.keeps_self_bind fun _ _ _ => ?_
  refine (Step.keeps_check _).bind fun scroll => ?_
  refine Keeps.bind (driven_update fun _ => rfl) fun _ => ?_
  refine Step.keeps_self_bind fun _ _ _ => (Step.keeps_check _).bind fun _ => ?_
  exact (driven_host _).bind fun _ => .pure _

theorem driven_commit (index : Nat) (layout : TabLayout Binary32) :
    Keeps (fun p => Driven p.1)
      (commit index layout : Step (TabRow Binary32 τ (Timing Binary32)) τ Unit) := by
  refine Step.keeps_self_bind fun row _ _ => driven_selectOrRollBack _ layout ?_
  cases row.onSelect with
  | none => exact .pure ()
  | some listener => exact driven_host _

theorem driven_handleEvent (event : InputEvent) :
    Keeps (fun p => Driven p.1)
      (handleEvent event : Step (TabRow Binary32 τ (Timing Binary32)) τ Bool) := by
  intro p hp
  by_cases hd : p.1.flags.has WidgetFlags.disabled
  · exact (ends_handleEvent_disabled hd).mpr hp
  rw [ends_handleEvent hd]
  refine (?_ : Keeps _ _) p hp
  cases event with
  | scroll point dx dy =>
    refine Step.keeps_self_bind fun row _ _ => .ite (fun _ => .pure _) fun _ => ?_
    exact (driven_setScroll _).bind fun _ => .pure _
  | pointerDown point =>
    refine (driven_hit point).bind fun ⟨layout, index⟩ => Step.keeps_self_bind fun row _ _ => ?_
    refine .ite (fun _ => .throw _) fun _ => ?_
    cases index with
    | none => exact .pure _
    | some index =>
      exact Keeps.bind (driven_update fun _ => rfl) fun _ =>
        .pure _
  | pointerUp point =>
    refine (driven_hit point).bind fun ⟨layout, index⟩ => Step.keeps_self_bind fun row _ _ => ?_
    cases row.pressed with
    | none => exact .pure _
    | some pressed =>
      refine Keeps.bind (Keeps.tryCatch ?_ fun e => driven_release.bind fun _ => .throw e) fun _ =>
        driven_release.bind fun _ => .pure _
      exact .ite (fun _ => driven_commit pressed layout) fun _ => .pure _
  | pointerMove _ => exact .pure _
  | keyDown _ => exact .pure _
  | keyUp _ => exact .pure _

theorem driven_destroy :
    Keeps (fun p => Driven p.1) (destroy : Step (TabRow Binary32 τ (Timing Binary32)) τ Unit) := by
  rintro p hp
  rw [ends_destroy]
  exact (driven_onFont OwnedFont.release).ends hp fun _ _ hq =>
    ⟨hq.style, Timing.clocked_idle, Timing.clocked_idle⟩

variable [PaintHost Binary32 τ]

theorem driven_paint :
    Keeps (fun p => Driven p.1) (paint : Step (TabRow Binary32 τ (Timing Binary32)) τ Unit) := by
  refine driven_currentLayout.bind fun layout => Step.keeps_self_bind fun _ _ _ => ?_
  refine (Step.keeps_check _).bind fun scroll => ?_
  refine Keeps.bind (driven_update fun _ => rfl) fun _ => ?_
  refine Step.keeps_self_bind fun _ _ _ => ?_
  refine (driven_host _).bind fun _ => ?_
  refine (driven_host _).bind fun _ => ?_
  exact (Step.keeps_check _).bind fun _ => driven_host _

theorem driven_run (hear : TabListener σ → TabListener τ) (op : TabOp Binary32 σ) :
    Keeps (fun p => Driven p.1)
      (op.run hear : Step (TabRow Binary32 τ (Timing Binary32)) τ Unit) := by
  cases op with
  | setItems items => exact driven_setItems items
  | setStyle style => exact driven_setStyle style
  | setSelected selected => exact driven_setSelected selected
  | setScroll offset => exact driven_setScroll offset
  | setOnSelect listener =>
    exact driven_update fun _ => rfl
  | setFlags flags => exact driven_update fun _ => rfl
  | setDisabled on => exact driven_update fun _ => rfl
  | step dt => exact keeps_ignore (driven_step dt)
  | measure width height => exact keeps_ignore (driven_measure width height)
  | layout bounds => exact driven_layout bounds
  | paint => exact driven_paint
  | event e => exact keeps_ignore (driven_handleEvent e)
  | destroy => exact driven_destroy

omit [PaintHost Binary32 τ] in
/-- A new row has been snapped, whatever channels it was given. -/
theorem ends_create_driven (style : TabStyle Binary32) (items : List String)
    (selected : Option Nat) (positionChannel widthChannel : Timing Binary32) (h : τ) :
    Ends (create style items selected positionChannel widthChannel) h fun r _ =>
      ∀ row, r = .ok row → Driven row := by
  apply (ends_create_ok style items selected positionChannel widthChannel h).imp
  intro r h' hmade row hr
  obtain ⟨hvalid, -, font, h₀, hsync⟩ := hmade row hr
  have hfresh : (fresh style items font selected positionChannel widthChannel :
      TabRow Binary32 τ (Timing Binary32)).style.validate true = .ok () := hvalid
  rcases (ends_of_run hsync).mp (ends_syncIndicator_driven hfresh _ _) with ⟨-, hd⟩ | ⟨-, e, he⟩
  · exact hd
  · exact (error_ne_ok he.symm).elim

theorem Reachable.driven {hear : TabListener σ → TabListener τ}
    {p : TabRow Binary32 τ (Timing Binary32) × τ} (hp : Reachable hear p) : p.1.Driven :=
  hp.invariant (fun p => Driven p.1) ends_create_driven (driven_run hear)

end Hosted

end TabRow

end Widgetry
