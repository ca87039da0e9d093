import Widgetry.Proofs.Animation.Timing

/-! What a step means by finished, over any sequence of calls to a channel. A transition that is
left to run is finished on its target and nowhere else. One that is stopped on its way counts as
finished from then on, at the value it was stopped at. -/
namespace Widgetry

inductive TimingCall (α : Type) where
  | begin (start target duration : α) (easing : Easing)
  | step (dt : α)
  | stop
  | reset
  deriving DecidableEq

/-- What calls have led to. -/
structure Course (α : Type) where
  timing : Timing α
  /-- The target of the last transition that was begun. -/
  aim : Option α
  /-- Where that transition was stopped, if it was before it arrived. -/
  frozen : Option α

namespace Course

variable {α : Type} [Scalar α]

def new : Course α := ⟨.idle, none, none⟩

/-- A call that is refused changes nothing. -/
def next (c : Course α) : TimingCall α → Course α
  | .begin start target duration easing =>
    match Timing.begin start target duration easing with
    | .ok timing => ⟨timing, some target, none⟩
    | .error _ => c
  | .step dt =>
    match c.timing.advance dt with
    | .ok timing => { c with timing }
    | .error _ => c
  | .stop =>
    { c with
      timing := c.timing.stop
      frozen := if c.timing.running then some c.timing.current else c.frozen }
  | .reset => new

def after (calls : List (TimingCall α)) : Course α := calls.foldl next new

/-- The channel is bound for `target`, and where it is not under way it is there or where it was
stopped. -/
structure Bound (c : Course α) (target : α) : Prop where
  aim : c.aim = some target
  tracks : c.timing.target = target
  halted : c.timing.running = false → c.timing.current = c.frozen.getD target
  moving : c.timing.running = true → c.frozen = none

/-- A channel that was begun is bound for somewhere. -/
def Steered (c : Course α) : Prop := c.timing.started = true → ∃ target, c.Bound target

variable {c : Course α} {start target duration dt : α} {easing : Easing} {t : Timing α}
  {calls : List (TimingCall α)}

theorem bound_begin (hb : Timing.begin start target duration easing = .ok t) :
    (⟨t, some target, none⟩ : Course α).Bound target := by
  have htracks := Timing.begin_tracks hb
  exact ⟨rfl, htracks.aim, htracks.rests, fun _ => rfl⟩

theorem Bound.advance (hb : c.Bound target) (ha : c.timing.advance dt = .ok t) :
    ({ c with timing := t } : Course α).Bound target := by
  cases hrunning : c.timing.running with
  | false =>
    obtain rfl := Timing.advance_stopped hrunning ha
    exact hb
  | true =>
    -- what moves was not stopped, so it lands on its target
    have hfrozen : c.frozen = none := hb.moving hrunning
    have htracks : c.timing.Tracks c.timing.current target :=
      ⟨hb.tracks, fun hstopped => Bool.noConfusion (hrunning.symm.trans hstopped), .inl rfl⟩
    have hnext := htracks.advance ha
    refine ⟨hb.aim, hnext.aim, fun hlanded => ?_, fun _ => hfrozen⟩
    rw [hnext.rests hlanded, hfrozen]
    rfl

theorem steered_next (hc : c.Steered) (call : TimingCall α) : (c.next call).Steered := by
  cases call with
  | begin start target duration easing =>
    rw [next]
    split
    next t hbegin => exact fun _ => ⟨target, bound_begin hbegin⟩
    next => exact hc
  | step dt =>
    rw [next]
    split
    next t hadvance =>
      obtain ⟨target, hbound⟩ := hc (Timing.started_of_advance hadvance)
      exact fun _ => ⟨target, hbound.advance hadvance⟩
    next => exact hc
  | stop =>
    intro hstarted
    obtain ⟨target, hbound⟩ := hc hstarted
    refine ⟨target, hbound.aim, hbound.tracks, fun _ => ?_, nofun⟩
    change c.timing.current = (if c.timing.running then _ else _ : Option α).getD target
    split
    · rfl
    next hstopped => exact hbound.halted (by simpa using hstopped)
  | reset => exact nofun

theorem steered_after (calls : List (TimingCall α)) : (after calls : Course α).Steered := by
  have hrun : ∀ c : Course α, c.Steered → (calls.foldl next c).Steered := by
    induction calls with
    | nil => exact fun _ hc => hc
    | cons call calls ih => exact fun c hc => ih _ (steered_next hc call)
  exact hrun new nofun

/-- Only a call to stop stops. -/
theorem frozen_next (hc : c.frozen = none) {call : TimingCall α} (hcall : call ≠ .stop) :
    (c.next call).frozen = none := by
  cases call with
  | begin start target duration easing =>
    rw [next]
    split
    · rfl
    · exact hc
  | step dt =>
    rw [next]
    split <;> exact hc
  | stop => exact (hcall rfl).elim
  | reset => rfl

theorem frozen_after (hcalls : .stop ∉ calls) : (after calls : Course α).frozen = none := by
  have hrun : ∀ c : Course α, c.frozen = none → (calls.foldl next c).frozen = none := by
    induction calls with
    | nil => exact fun _ hc => hc
    | cons call calls ih =>
      have hcall : call ≠ .stop := fun h => hcalls (h ▸ List.mem_cons_self)
      exact fun c hc => ih (fun h => hcalls (List.mem_cons_of_mem _ h)) _ (frozen_next hc hcall)
  exact hrun new rfl

/-- After any calls, a step that answers goes on to the target of the last transition begun. It
answers that it has finished there and nowhere else, but for a transition that was stopped before it
arrived: that one is said to have finished where it was stopped. -/
theorem finished_on_target (calls : List (TimingCall α)) (dt : α) {t : Timing α}
    (h : (after calls).timing.advance dt = .ok t) :
    (after calls).aim = some t.target ∧
      (t.reading.finished = true → t.reading.value = (after calls).frozen.getD t.target) ∧
      (∀ value, (after calls).frozen = some value → t.reading = ⟨value, true⟩) ∧
      (.stop ∉ calls → t.reading.finished = true → t.reading.value = t.target) := by
  have hsteered := steered_after calls
  generalize hc : after calls = c at *
  obtain ⟨target, hbound⟩ := hsteered (Timing.started_of_advance h)
  have hnext := hbound.advance h
  obtain rfl : t.target = target := hnext.tracks
  have hvalue : t.reading.finished = true → t.reading.value = c.frozen.getD t.target := by
    intro hfinished
    exact hnext.halted (by simpa [Timing.reading] using hfinished)
  refine ⟨hnext.aim, hvalue, fun value hfrozen => ?_, fun hcalls hfinished => ?_⟩
  · have hstopped : t.running = false := by
      cases hrunning : t.running with
      | false => rfl
      | true => exact nomatch hfrozen.symm.trans (hnext.moving hrunning)
    have hvalue : t.current = value := by
      rw [hnext.halted hstopped]
      change c.frozen.getD t.target = value
      rw [hfrozen]
      rfl
    rw [Timing.reading, hstopped, hvalue]
    rfl
  · rw [hvalue hfinished, ← hc, frozen_after hcalls]
    rfl

/-- From zero to a hundred within a second, which half a second takes half-way. -/
def halfway : List (TimingCall Binary32) := [.begin 0 100 1 .linear, .step 0.5]

theorem finished_on_target_halfway : ∃ t, (after halfway).timing.advance 0.75 = .ok t ∧
    t.reading.finished = true ∧ t.reading.value = 100 := by
  have hfinished : ((after halfway).timing.advance 0.75).toOption.map Timing.running =
      some false := by decide +kernel
  have htarget : (after halfway).aim = some 100 := by decide +kernel
  rcases hadvance : (after halfway).timing.advance 0.75 with e | t
  all_goals rw [hadvance] at hfinished
  · exact nomatch hfinished
  have hstopped : t.reading.finished = true := by
    rw [Timing.reading, Option.some.inj hfinished]
    rfl
  obtain ⟨haim, -, -, hvalue⟩ := finished_on_target halfway 0.75 hadvance
  refine ⟨t, rfl, hstopped, ?_⟩
  rw [hvalue (by simp [halfway]) hstopped]
  exact Option.some.inj (haim.symm.trans htarget)

/-- A transition that is stopped half-way is said to have finished there. -/
theorem stopped_counts_as_finished : ∃ t,
    (after (halfway ++ [.stop])).timing.advance 0.25 = .ok t ∧
      t.reading.finished = true ∧ t.reading.value = 50 ∧ t.target = 100 ∧
      t.reading.value ≠ t.target := by
  have hread : ((after (halfway ++ [.stop])).timing.advance 0.25).toOption.map
      (fun t => (t.running, t.current, t.target)) = some (false, 50, 100) := by decide +kernel
  rcases hadvance : (after (halfway ++ [.stop])).timing.advance 0.25 with e | t
  all_goals rw [hadvance] at hread
  · exact nomatch hread
  have hparts := Option.some.inj hread
  have hrunning : t.running = false := congrArg Prod.fst hparts
  have hcurrent : t.current = 50 := congrArg (·.2.1) hparts
  have htarget : t.target = 100 := congrArg (·.2.2) hparts
  refine ⟨t, hadvance, ?_, hcurrent, htarget, ?_⟩
  · rw [Timing.reading, hrunning]
    rfl
  · change t.current ≠ t.target
    rw [hcurrent, htarget]
    decide +kernel

end Course

end Widgetry
