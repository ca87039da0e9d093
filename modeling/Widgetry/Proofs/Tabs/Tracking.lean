import Widgetry.Proofs.Animation.Dial
import Widgetry.Proofs.Host.Unfailing
import Widgetry.Tabs.Row

/-! An indicator over plain timings. They refuse nothing but a duration that no style has, so on a
host that does not refuse either, a sync sends the indicator to its target or changes nothing. A
step turns two dials and asks its host nothing. -/
namespace Widgetry

variable {α σ : Type} [Scalar α]

namespace TabRow

/-- The row with its indicator under way to `target`, or there. -/
inductive Sent (row : TabRow α σ (Timing α)) (target : α × α) : TabRow α σ (Timing α) → Prop
  | sent {positionChannel widthChannel : Timing α} {indicatorStart indicatorWidth : α}
      (position : positionChannel.Tracks indicatorStart target.1)
      (width : widthChannel.Tracks indicatorWidth target.2) :
      Sent row target
        { row with positionChannel, widthChannel, indicatorStart, indicatorWidth }

/-- The row, laid out as it stands where its labels measure as `metrics` says. -/
def Lays (metrics : FontHandle → String → TextMetrics α) (row : TabRow α σ (Timing α))
    (layout : TabLayout α) : Prop :=
  Gives metrics row.font (fun m => row.style.computeLayout m row.items row.bounds) layout

/-- Where the indicator belongs in a layout. -/
def Targets (metrics : FontHandle → String → TextMetrics α) (row : TabRow α σ (Timing α))
    (layout : TabLayout α) (target : α × α) : Prop :=
  Gives metrics row.font (fun m => row.style.indicatorTarget m row.items layout row.selected) target

variable {metrics : FontHandle → String → TextMetrics α} {row : TabRow α σ (Timing α)} {h : σ}
  {layout : TabLayout α} {target : α × α}

/-- Both channels are given one duration, so they refuse it together. -/
theorem ends_launch [TextHost α σ] (target : α × α) (start width duration : α) (easing : Easing) :
    Ends (do
        onPosition (Channel.begin start target.1 duration easing)
        onWidth (Channel.begin width target.2 duration easing)
        let indicatorStart ← onPosition Channel.value
        let indicatorWidth ← onWidth Channel.value
        Step.update fun row => { row with indicatorStart, indicatorWidth }) (row, h) fun r p =>
      match r with
      | .ok () => Sent row target p.1
      | .error _ => p.1 = row ∧ duration < 0 := by
  rw [ends_bind, onPosition, Step.ends_zoom, Timing.ends_begin]
  cases hposition : Timing.begin start target.1 duration easing with
  | error e => exact ⟨rfl, Timing.begin_error hposition⟩
  | ok positionChannel =>
    dsimp only
    rw [ends_bind, onWidth, Step.ends_zoom, Timing.ends_begin]
    cases hwidth : Timing.begin width target.2 duration easing with
    | error e => exact (Timing.not_neg_of_begin hposition (Timing.begin_error hwidth)).elim
    | ok widthChannel =>
      exact .sent (Timing.begin_tracks hposition) (Timing.begin_tracks hwidth)

section Dials

def positionDial (row : TabRow α σ (Timing α)) : Dial α := ⟨row.positionChannel, row.indicatorStart⟩

def widthDial (row : TabRow α σ (Timing α)) : Dial α := ⟨row.widthChannel, row.indicatorWidth⟩

/-- The row with both its dials turned. -/
def turned (dt : α) (row : TabRow α σ (Timing α)) : TabRow α σ (Timing α) :=
  { row with
    positionChannel := (row.positionDial.turn dt).channel
    indicatorStart := (row.positionDial.turn dt).shown
    widthChannel := (row.widthDial.turn dt).channel
    indicatorWidth := (row.widthDial.turn dt).shown }

/-- The step shows the indicator somewhere else, or in another width. -/
def turns (dt : α) (row : TabRow α σ (Timing α)) : Bool :=
  row.positionDial.turns dt || row.widthDial.turns dt

variable {dt : α}

theorem stepPosition_run (hdt : ¬dt < 0) : (stepPosition dt).run (row, h) =
    (.ok (row.positionDial.turns dt),
      { row with
        positionChannel := (row.positionDial.turn dt).channel
        indicatorStart := (row.positionDial.turn dt).shown }, h) := by
  change (Dial.stepIn positionDial (fun positionChannel row => { row with positionChannel })
    (fun indicatorStart row => { row with indicatorStart }) dt).run (row, h) = _
  exact Dial.stepIn_run hdt rfl fun _ => rfl

theorem stepWidth_run (hdt : ¬dt < 0) : (stepWidth dt).run (row, h) =
    (.ok (row.widthDial.turns dt),
      { row with
        widthChannel := (row.widthDial.turn dt).channel
        indicatorWidth := (row.widthDial.turn dt).shown }, h) := by
  change (Dial.stepIn widthDial (fun widthChannel row => { row with widthChannel })
    (fun indicatorWidth row => { row with indicatorWidth }) dt).run (row, h) = _
  exact Dial.stepIn_run hdt rfl fun _ => rfl

/-- Only a step back in time, or by no number, fails. -/
theorem step_run (hdt : ¬(Scalar.isNaN dt = true ∨ dt < 0)) :
    (step dt).run (row, h) = (.ok (row.turns dt), row.turned dt, h) := by
  have hforward : ¬dt < 0 := fun hneg => hdt (.inr hneg)
  change Ends (step dt) (row, h) fun r p => (r, p) = _
  rw [step, if_neg hdt, ends_bind, ends_of_run (stepPosition_run hforward)]
  dsimp only
  rw [ends_bind, ends_of_run (stepWidth_run hforward)]
  rfl

end Dials

section Unfailing

variable [TextHost α σ] (hu : Unfailing metrics σ)
include hu

theorem ends_currentLayout_lays :
    Ends (currentLayout : Step (TabRow α σ (Timing α)) σ _) (row, h) fun r p =>
      p.1 = row ∧ ∀ layout, r = .ok layout ↔ Lays metrics row layout := by
  rw [currentLayout, ends_bind, Step.ends_self]
  exact hu.ends_measured fun hm => row.style.echoes_computeLayout hm row.items row.bounds

/-- A snap succeeds wherever there is a target. -/
theorem ends_syncIndicator [HasZero α] (animate : Bool) :
    Ends (syncIndicator layout animate) (row, h) fun r p =>
      match r with
      | .ok () => ∃ target, Targets metrics row layout target ∧ Sent row target p.1
      | .error _ =>
        p.1 = row ∧ (animate = false → ∀ target, ¬Targets metrics row layout target) := by
  rw [syncIndicator, ends_bind, Step.ends_self]
  dsimp only
  refine hu.ends_measured_bind (row.style.indicatorTarget · row.items layout row.selected)
    (fun hm => row.style.echoes_indicatorTarget hm row.items layout row.selected) ?_ ?_
  · rintro target h₁ htarget
    split
    next hanimate =>
      apply (ends_launch target _ _ _ _).imp
      rintro (e | ⟨⟩) p hp
      · exact ⟨hp.1, fun hstill => Bool.noConfusion (hanimate.symm.trans hstill)⟩
      · exact ⟨target, htarget, hp⟩
    · apply (ends_launch target _ _ _ _).imp
      rintro (e | ⟨⟩) p hp
      · exact (HasZero.not_neg hp.2).elim
      · exact ⟨target, htarget, hp⟩
  · exact fun e h₁ hnone => ⟨rfl, fun _ => hnone⟩

end Unfailing

end TabRow

end Widgetry
