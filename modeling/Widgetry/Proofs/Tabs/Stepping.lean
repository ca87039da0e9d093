import Widgetry.Proofs.Host.Scripted
import Widgetry.Proofs.Tabs.Driven

/-! Running a transition out: a row is stepped for as long as a step answers that the indicator has
changed. Over plain timings that comes to an end, unless a channel is left reading NaN. -/
namespace Widgetry

open Binary (Amount)

namespace TabRow

variable {σ τ : Type}

section Loop

variable {α χ : Type} [Scalar α] [Channel α τ χ]

/-- Steps of one length, until one answers that nothing has changed. -/
inductive RunsOut (dt : α) : TabRow α τ χ × τ → TabRow α τ χ × τ → Prop
  | done {p q : TabRow α τ χ × τ} (run : (step dt).run p = (.ok false, q)) : RunsOut dt p q
  | more {p p' q : TabRow α τ χ × τ} (run : (step dt).run p = (.ok true, p'))
      (rest : RunsOut dt p' q) : RunsOut dt p q

/-- What a step leads to, whatever it answers. -/
def stepped (dt : α) (p : TabRow α τ χ × τ) : TabRow α τ χ × τ := ((step dt).run p).2

end Loop

section Turned

variable {α : Type} [Scalar α] {row : TabRow α τ (Timing α)} {h : τ} {dt : α}

theorem positionDial_iterate (dt : α) (n : Nat) (row : TabRow α τ (Timing α)) :
    ((turned dt)^[n] row).positionDial = (Dial.turn dt)^[n] row.positionDial :=
  Function.Semiconj.iterate_right (f := positionDial) (fun _ => rfl) n row

theorem widthDial_iterate (dt : α) (n : Nat) (row : TabRow α τ (Timing α)) :
    ((turned dt)^[n] row).widthDial = (Dial.turn dt)^[n] row.widthDial :=
  Function.Semiconj.iterate_right (f := widthDial) (fun _ => rfl) n row

variable (hdt : ¬(Scalar.isNaN dt = true ∨ dt < 0))
include hdt

theorem stepped_iterate (n : Nat) : (stepped dt)^[n] (row, h) = ((turned dt)^[n] row, h) := by
  induction n with
  | zero => rfl
  | succ n ih =>
    rw [Function.iterate_succ_apply', Function.iterate_succ_apply', ih, stepped, step_run hdt]

theorem runsOut_of_rest {n : Nat} (hrest : ((turned dt)^[n] row).turns dt = false) :
    ∃ q, RunsOut dt (row, h) q := by
  induction n generalizing row with
  | zero => exact ⟨_, .done (hrest ▸ step_run hdt)⟩
  | succ n ih =>
    have hstep : (step dt).run (row, h) = (.ok (row.turns dt), row.turned dt, h) := step_run hdt
    cases hturns : row.turns dt with
    | false => exact ⟨_, .done (hturns ▸ hstep)⟩
    | true =>
      obtain ⟨q, hq⟩ := ih hrest
      exact ⟨q, .more (hturns ▸ hstep) hq⟩

end Turned

variable {row : TabRow Binary32 τ (Timing Binary32)} {h : τ} {dt : Binary32}

theorem admitted_of_pos (hdt : 0 < dt) : ¬(Scalar.isNaN dt = true ∨ dt < 0) :=
  fun h => h.elim (amount_of_pos hdt).1.number (not_lt_zero_iff.mpr (amount_of_pos hdt).1.nonNeg)

/-- One of the channels was started, and reads no number. -/
def ReadsNaN (row : TabRow Binary32 τ (Timing Binary32)) : Prop :=
  row.positionChannel.ReadsNaN ∨ row.widthChannel.ReadsNaN

/-- One of the channels reads no number, and no step changes that. -/
def Stranded (dt : Binary32) (row : TabRow Binary32 τ (Timing Binary32)) : Prop :=
  row.positionChannel.Stranded dt ∨ row.widthChannel.Stranded dt

theorem Stranded.readsNaN (hs : row.Stranded dt) : row.ReadsNaN :=
  hs.imp Timing.Stranded.reads Timing.Stranded.reads

/-- Each step answers that the indicator has changed, and leaves the row stranded. -/
theorem Stranded.turn (hs : row.Stranded dt) :
    row.turns dt = true ∧ (row.turned dt).Stranded dt := by
  rcases hs with hposition | hwidth
  · obtain ⟨hturns, hsame⟩ := Dial.turns_of_stranded (d := row.positionDial) hposition
    have hkept : (row.turned dt).positionChannel = row.positionChannel := hsame
    refine ⟨?_, .inl (hkept ▸ hposition)⟩
    rw [turns, hturns, Bool.true_or]
  · obtain ⟨hturns, hsame⟩ := Dial.turns_of_stranded (d := row.widthDial) hwidth
    have hkept : (row.turned dt).widthChannel = row.widthChannel := hsame
    refine ⟨?_, .inr (hkept ▸ hwidth)⟩
    rw [turns, hturns, Bool.or_true]

theorem Stranded.not_runsOut (hs : row.Stranded dt) (hdt : ¬(Scalar.isNaN dt = true ∨ dt < 0)) :
    ¬∃ q, RunsOut dt (row, h) q := by
  rintro ⟨q, hq⟩
  generalize hp : (row, h) = p at hq
  induction hq generalizing row h with
  | done run =>
    subst hp
    have hanswer : (Except.ok (row.turns dt) : Except Error Bool) = .ok false :=
      congrArg Prod.fst ((step_run hdt).symm.trans run)
    exact Bool.noConfusion (hs.turn.1.symm.trans (Except.ok.inj hanswer))
  | more run _ ih =>
    subst hp
    exact ih hs.turn.2 (congrArg Prod.snd ((step_run hdt).symm.trans run))

/-- Turned long enough, a row shows nothing new any more, or it is stranded. -/
theorem Driven.comes_to_rest (hd : row.Driven) (hdt : 0 < dt) :
    ∃ n, ((turned dt)^[n] row).turns dt = false ∨
      ∀ m ≥ n, ((turned dt)^[m] row).Stranded dt := by
  obtain ⟨hamount, hpos⟩ := amount_of_pos hdt
  obtain ⟨n₁, hn₁⟩ := Dial.comes_to_rest (d := row.positionDial) hd.position hamount hpos
  obtain ⟨n₂, hn₂⟩ := Dial.comes_to_rest (d := row.widthDial) hd.width hamount hpos
  simp only [← positionDial_iterate] at hn₁
  simp only [← widthDial_iterate] at hn₂
  rcases hn₁ with hrest₁ | hstranded
  · rcases hn₂ with hrest₂ | hstranded
    · refine ⟨max n₁ n₂, .inl ?_⟩
      rw [turns, hrest₁ _ (le_max_left n₁ n₂), hrest₂ _ (le_max_right n₁ n₂), Bool.or_false]
    · exact ⟨n₂, .inr fun m hm => .inr (hstranded m hm)⟩
  · exact ⟨n₁, .inr fun m hm => .inl (hstranded m hm)⟩

/-- Between finite ends no channel comes to read NaN. -/
theorem Driven.not_readsNaN_turned (hd : row.Driven) (hdt : dt.Amount)
    (hposition : row.positionChannel.Tame) (hwidth : row.widthChannel.Tame) (n : Nat) :
    ¬((turned dt)^[n] row).ReadsNaN := by
  rintro (hnan | hnan)
  · refine (Dial.tame_iterate (d := row.positionDial) hposition hd.position hdt n).reads ?_
    rwa [← positionDial_iterate]
  · refine (Dial.tame_iterate (d := row.widthDial) hwidth hd.width hdt n).reads ?_
    rwa [← widthDial_iterate]

variable [TextHost Binary32 τ] [PaintHost Binary32 τ]

/-- Whatever a program did to a row before, and however short the steps are, to step it until its
indicator does not change ends, or comes to where a channel reads NaN and it never ends. It ends
where each channel under way has come from a finite number and has a finite way to go. -/
theorem stepping_ends_unless_nan {hear : TabListener σ → TabListener τ}
    {p : TabRow Binary32 τ (Timing Binary32) × τ} (hp : Reachable hear p) (hdt : 0 < dt) :
    ((∃ q, RunsOut dt p q) ∨ ∃ n, ∀ m ≥ n,
        ((stepped dt)^[m] p).1.ReadsNaN ∧ ¬∃ q, RunsOut dt ((stepped dt)^[m] p) q) ∧
      (p.1.positionChannel.Tame → p.1.widthChannel.Tame → ∃ q, RunsOut dt p q) := by
  obtain ⟨row, h⟩ := p
  have hd : row.Driven := hp.driven
  have hforward := admitted_of_pos hdt
  simp only [stepped_iterate hforward]
  obtain ⟨n, hrest | hstranded⟩ := hd.comes_to_rest hdt
  · have hends : ∃ q, RunsOut dt (row, h) q := runsOut_of_rest hforward hrest
    exact ⟨.inl hends, fun _ _ => hends⟩
  · refine ⟨.inr ⟨n, fun m hm => ?_⟩, fun hposition hwidth => ?_⟩
    · exact ⟨(hstranded m hm).readsNaN, (hstranded m hm).not_runsOut hforward⟩
    · have hnan := (hstranded n le_rfl).readsNaN
      exact (hd.not_readsNaN_turned (amount_of_pos hdt).1 hposition hwidth n hnan).elim

/-- Two tabs, the first of which is selected, over plain timings. -/
def slidingTabs :
    HostM (Scripted Binary32) (TabRow Binary32 (Scripted Binary32) (Timing Binary32)) :=
  create { TabStyle.default with text := .withFamily "Sans" } ["Home", "Library"] (some 0)
    .idle .idle

/-- The row is laid out, and then its indicator is sent from the first tab to the second. -/
def slide : List (TabOp Binary32 (Scripted Binary32)) :=
  [.layout ⟨0, 0, 200, 48⟩, .setSelected (some 1)]

theorem stepping_ends_sliding :
    ∃ p q : TabRow Binary32 (Scripted Binary32) (Timing Binary32) × Scripted Binary32,
      Reachable id p ∧ p.1.positionChannel.running = true ∧ (0 : Binary32) < 0.016 ∧
        RunsOut 0.016 p q := by
  have hstate : (match slidingTabs.run (.start []) with
      | (.ok row, host) =>
        let p := slide.foldl (fun p op => ((op.run id).run p).2) (row, host)
        decide (p.1.positionChannel.running = true ∧ p.1.positionChannel.Tame ∧
          p.1.widthChannel.Tame)
      | (.error _, _) => false) = true := by decide +kernel
  rcases hmake : slidingTabs.run (.start []) with ⟨e | row, host⟩
  all_goals rw [hmake] at hstate
  · exact nomatch hstate
  obtain ⟨hrunning, hposition, hwidth⟩ := of_decide_eq_true hstate
  have hp : Reachable id (slide.foldl (fun p op => ((op.run id).run p).2) (row, host)) :=
    (Reachable.created hmake).after slide
  have hdt : (0 : Binary32) < 0.016 := by decide +kernel
  obtain ⟨q, hq⟩ := (stepping_ends_unless_nan hp hdt).2 hposition hwidth
  exact ⟨_, q, hp, hrunning, hdt, hq⟩

/-- Infinitely far apart, and accepted. -/
def farApart : TabStyle Binary32 :=
  { TabStyle.default with spacing := .infinite false, text := .withFamily "Sans" }

/-- The only tab of such a row is laid out with its indicator at rest on NaN. Nothing moves, and no
step answers so. -/
theorem stepping_never_ends_far_apart : farApart.validate true = .ok () ∧
    ∃ p q : TabRow Binary32 (Scripted Binary32) (Timing Binary32) × Scripted Binary32,
      (create farApart ["Home"] (some 0) .idle .idle).run (.start []) = (.ok p.1, p.2) ∧
        (TabRow.layout ⟨0, 0, 200, 48⟩).run p = (.ok (), q) ∧
          ∀ dt : Binary32, 0 < dt → ¬∃ q', RunsOut dt q q' := by
  have hstate : (match (create farApart ["Home"] (some 0) .idle .idle :
        HostM (Scripted Binary32) (TabRow Binary32 _ (Timing Binary32))).run (.start []) with
      | (.ok row, host) =>
        let q := (TabRow.layout ⟨0, 0, 200, 48⟩).run (row, host)
        decide (q.1.toOption = some () ∧ q.2.1.positionChannel.ReadsNaN ∧
          q.2.1.positionChannel.running = false)
      | (.error _, _) => false) = true := by decide +kernel
  rcases hmake : (create farApart ["Home"] (some 0) .idle .idle :
    HostM (Scripted Binary32) (TabRow Binary32 _ (Timing Binary32))).run (.start [])
    with ⟨e | row, host⟩
  all_goals rw [hmake] at hstate
  · exact nomatch hstate
  obtain ⟨hlaid, hnan, harrived⟩ := of_decide_eq_true hstate
  have hvalid := ((ends_of_run hmake).mp (ends_create_ok _ _ _ _ _ _) row rfl).1
  have hrun := run_of_toOption hlaid
  generalize ((TabRow.layout ⟨0, 0, 200, 48⟩).run (row, host)).2 = q at hrun hnan harrived
  refine ⟨hvalid, (row, host), q, rfl, hrun, fun dt hdt => ?_⟩
  have hforward := admitted_of_pos hdt
  have hstranded : q.1.positionChannel.Stranded dt :=
    Timing.stranded_of_stopped (fun hneg => hforward (.inr hneg)) harrived hnan
  exact Stranded.not_runsOut (.inl hstranded) hforward

end TabRow

end Widgetry
