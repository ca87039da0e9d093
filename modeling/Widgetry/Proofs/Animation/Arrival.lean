import Mathlib.Logic.Function.Iterate
import Widgetry.Proofs.Animation.Dial
import Widgetry.Proofs.Binary.Finite

/-! A channel that is stepped over and over comes to a standstill: its clock goes up through
finitely many numbers, to the duration or to where a step is too small to count. Between finite ends
it reads a number all along. Whoever waits until its dial shows nothing new waits forever if it
reads NaN then, and otherwise does not. -/
namespace Widgetry

open Binary (Amount IsFinite Within)

theorem amount_zero : (0 : Binary32).Amount := ⟨by decide +kernel, nonNeg_zero⟩

theorem amount_of_pos {x : Binary32} (h : 0 < x) : x.Amount ∧ x.rank ≠ 0 := by
  have hnonneg : x.NonNeg := not_lt_zero_iff.mp (Binary.lt_asymm h)
  exact ⟨⟨Binary.not_isNaN_of_lt h, hnonneg⟩, (Binary.isFinite_of_lt nonNeg_zero h).2⟩

namespace Easing

theorem within_unit {t : Binary32} (ht : ¬t.isNaN = true) : Within 0 (unit t) := by
  have hone : (1 : Binary32) = .finite false (2 ^ 149) (by decide +kernel) := by decide +kernel
  unfold unit
  split
  · decide +kernel
  next hneg =>
    split
    · decide +kernel
    next hle =>
      rw [hone] at hle
      have hnonneg := not_lt_zero_iff.mp hneg
      rcases t with _ | s | ⟨s, mag, fits⟩
      · exact (ht rfl).elim
      · obtain rfl := Binary.nonNeg_infinite.mp hnonneg
        exact (hle rfl).elim
      · have hsigned : ¬Binary.signed false (2 ^ 149) < Binary.signed s mag := fun hlt =>
          hle (decide_eq_true hlt)
        have hmag : Binary.signed s mag = mag := Amount.signed_eq ⟨ht, hnonneg⟩
        rw [hmag] at hsigned
        refine .finite (Nat.not_lt.mp fun hlt => hsigned ?_)
        exact Int.ofNat_lt.mpr hlt

/-- No curve leaves a certain range, and on numbers it gives numbers. -/
theorem within_apply (easing : Easing) {t : Binary32} (ht : ¬t.isNaN = true) :
    Within 5 (easing.apply t) := by
  have hu := within_unit ht
  have hone : Within 0 (1 : Binary32) := by decide +kernel
  have htwo : Within 1 (2 : Binary32) := by decide +kernel
  have hminus : Within 1 (Scalar.ofInt (-2) : Binary32) := by decide +kernel
  have hhalf : Within 0 (0.5 : Binary32) := by decide +kernel
  unfold apply
  generalize unit t = u at hu
  have hfits (k : Nat) (hk : k ≤ 5) : Format.binary32.scale + k < Format.binary32.top := by
    change 149 + k < 277
    omega
  cases easing with
  | linear => exact hu.mono (by omega)
  | easeIn => exact (hu.mul hu (hfits 0 (by omega))).mono (by omega)
  | easeOut =>
    have hinv : Within 1 (1 - u) := hone.sub hu (hfits 1 (by omega))
    have hsquare : Within 2 ((1 - u) * (1 - u)) := hinv.mul hinv (hfits 2 (by omega))
    exact ((hone.mono (by omega)).sub hsquare (hfits 3 (by omega))).mono (by omega)
  | easeInOut =>
    have hdouble : Within 1 (2 * u) := htwo.mul hu (hfits 1 (by omega))
    have hback : Within 1 (Scalar.ofInt (-2) * u) := hminus.mul hu (hfits 1 (by omega))
    unfold curve
    dsimp only
    split
    · exact (hdouble.mul hu (hfits 1 (by omega))).mono (by omega)
    · have hinv : Within 2 (Scalar.ofInt (-2) * u + 2) := hback.add htwo (hfits 2 (by omega))
      generalize Scalar.ofInt (-2) * u + 2 = inv at hinv
      have hsquare : Within 4 (inv * inv) := hinv.mul hinv (hfits 4 (by omega))
      have hscaled : Within 4 (inv * inv * 0.5) := hsquare.mul hhalf (hfits 4 (by omega))
      exact (hone.mono (by omega)).sub hscaled (hfits 5 (by omega))

end Easing

namespace Timing

/-- No step changes the channel any more. -/
def Still {α : Type} [Scalar α] (dt : α) (t : Timing α) : Prop :=
  t.started = false ∨ t.advance dt = .ok t

variable {t t' : Timing Binary32} {dt : Binary32}

/-- Both clocks of a channel are numbers that are not below zero. -/
structure Clocked (t : Timing Binary32) : Prop where
  elapsed : t.elapsed.Amount
  duration : t.duration.Amount

theorem clocked_idle : (idle : Timing Binary32).Clocked := ⟨amount_zero, amount_zero⟩

theorem clocked_begin {start target duration : Binary32} {easing : Easing}
    (hd : duration.Amount) (hb : begin start target duration easing = .ok t) : t.Clocked := by
  rw [begin] at hb
  split at hb
  · exact (error_ne_ok hb).elim
  · obtain rfl := Except.ok.inj hb
    exact ⟨amount_zero, hd⟩

theorem Clocked.advance (hc : t.Clocked) (hdt : dt.Amount) (ha : Advances t dt t') :
    t'.Clocked := by
  have hclock : (t.clockAfter dt).Amount := (hc.elapsed.add hdt).min hc.duration
  cases ha with
  | rests => exact hc
  | arrives => exact ⟨hclock, hc.duration⟩
  | moves => exact ⟨hclock, hc.duration⟩

/-- How many numbers the clock of a channel under way can still pass. -/
def toGo (t : Timing Binary32) : Nat :=
  if t.running then 2 ^ Format.binary32.top + 1 - t.elapsed.rank else 0

/-- A step takes the clock on, or it was the last one to change anything. -/
theorem Clocked.toGo_lt_or_still (hc : t.Clocked) (hdt : dt.Amount) (hpos : dt.rank ≠ 0)
    (ha : t.advance dt = .ok t') : t'.toGo < t.toGo ∨ t'.Still dt := by
  have hrank := t.elapsed.rank_le
  cases (advances ha).2 with
  | rests stopped => exact .inr (.inr ha)
  | arrives moving late =>
    left
    rw [toGo, toGo, if_pos moving, if_neg Bool.false_ne_true]
    omega
  | moves moving early =>
    have hclock : t.clockAfter dt = t.elapsed + dt := by
      refine (Binary.min_eq_or _ _).resolve_right fun hmin => early ?_
      rw [clockAfter, hmin]
      exact hc.duration.le_refl
    rw [hclock] at ha ⊢
    by_cases hstuck : (t.elapsed + dt).rank ≤ t.elapsed.rank
    · -- The clock stands, so the next step reads what this one has read.
      have hsame : t.elapsed + dt = t.elapsed := hc.elapsed.add_eq_of_rank_le hdt hpos hstuck
      rw [hsame] at ha ⊢
      exact .inr (.inr ((advance_reread moving _).trans ha))
    · have htop := (t.elapsed + dt).rank_le
      left
      simp only [toGo, moving, if_true]
      omega

/-- The channel was started, and reads no number. -/
def ReadsNaN (t : Timing Binary32) : Prop := t.started = true ∧ t.current.isNaN = true

instance decidableReadsNaN (t : Timing Binary32) : Decidable t.ReadsNaN :=
  inferInstanceAs (Decidable (t.started = true ∧ t.current.isNaN = true))

/-- No step makes a number of what the channel reads. -/
structure Stranded (dt : Binary32) (t : Timing Binary32) : Prop where
  still : t.Still dt
  reads : t.ReadsNaN

theorem stranded_of_stopped (hdt : ¬dt < 0) (hs : t.running = false) (hn : t.ReadsNaN) :
    t.Stranded dt := by
  refine ⟨.inr ?_, hn⟩
  simp [advance, hdt, hs, hn.1]

/-- A channel under way starts at a finite number and has a finite way to go, and one that was
started reads a number. -/
structure Tame (t : Timing Binary32) : Prop where
  reads : ¬t.ReadsNaN
  start : t.running = true → t.start.IsFinite
  span : t.running = true → (t.target - t.start).IsFinite

instance decidableTame (t : Timing Binary32) : Decidable t.Tame :=
  decidable_of_iff
    (¬t.ReadsNaN ∧ (t.running = true → t.start.IsFinite ∧ (t.target - t.start).IsFinite))
    ⟨fun h => ⟨h.1, fun hr => (h.2 hr).1, fun hr => (h.2 hr).2⟩,
      fun h => ⟨h.reads, fun hr => ⟨h.start hr, h.span hr⟩⟩⟩

theorem Tame.advance (h : t.Tame) (hc : t.Clocked) (hdt : dt.Amount) (ha : Advances t dt t') :
    t'.Tame := by
  cases ha with
  | rests => exact h
  | arrives moving =>
    have hnumber := Binary.not_isNaN_of_sub (h.span moving).not_isNaN
    exact ⟨fun hnan => hnumber hnan.2, nofun, nofun⟩
  | moves moving early =>
    refine ⟨fun hnan => ?_, h.start, h.span⟩
    have hclock : (t.clockAfter dt).Amount := (hc.elapsed.add hdt).min hc.duration
    obtain ⟨hfinite, hduration⟩ :=
      Binary.isFinite_of_lt hclock.nonNeg (hclock.lt_of_not_le hc.duration early)
    have hprogress := hfinite.not_isNaN_div hc.duration.number hduration
    have heased := (t.easing.within_apply hprogress).isFinite
    exact (h.start moving).not_isNaN_add ((h.span moving).not_isNaN_mul heased) hnan.2

end Timing

namespace Dial

section Still

variable {α : Type} [Scalar α] {d : Dial α} {dt : α}

theorem channel_turn_of_still (hs : d.channel.Still dt) : (d.turn dt).channel = d.channel := by
  cases ha : d.channel.advance dt with
  | error e => rw [(turn_error ha).1]
  | ok t =>
    rw [channel_turn ha]
    rcases hs with hidle | hsame
    · exact (Bool.false_ne_true (hidle.symm.trans (Timing.started_of_advance ha))).elim
    · exact Except.ok.inj (ha.symm.trans hsame)

/-- A channel at a standstill stays there. -/
theorem channel_iterate_of_still {n m : Nat} (hs : ((turn dt)^[n] d).channel.Still dt)
    (hm : n ≤ m) : ((turn dt)^[m] d).channel = ((turn dt)^[n] d).channel := by
  induction m, hm using Nat.le_induction with
  | base => rfl
  | succ m hm ih =>
    rw [Function.iterate_succ_apply', channel_turn_of_still (ih ▸ hs), ih]

end Still

variable {d : Dial Binary32} {dt : Binary32}

theorem clocked_turn (hc : d.channel.Clocked) (hdt : dt.Amount) :
    (d.turn dt).channel.Clocked := by
  cases ha : d.channel.advance dt with
  | error e => rwa [(turn_error ha).1]
  | ok t =>
    rw [channel_turn ha]
    exact hc.advance hdt (Timing.advances ha).2

theorem tame_turn (ht : d.channel.Tame) (hc : d.channel.Clocked) (hdt : dt.Amount) :
    (d.turn dt).channel.Tame := by
  cases ha : d.channel.advance dt with
  | error e => rwa [(turn_error ha).1]
  | ok t =>
    rw [channel_turn ha]
    exact ht.advance hc hdt (Timing.advances ha).2

theorem tame_iterate (ht : d.channel.Tame) (hc : d.channel.Clocked) (hdt : dt.Amount) (n : Nat) :
    ((turn dt)^[n] d).channel.Tame := by
  induction n generalizing d with
  | zero => exact ht
  | succ n ih => exact ih (tame_turn ht hc hdt) (clocked_turn hc hdt)

/-- Each step but the last takes the clock on, and there are only so many numbers. -/
theorem exists_still (hc : d.channel.Clocked) (hdt : dt.Amount) (hpos : dt.rank ≠ 0) :
    ∃ n, ((turn dt)^[n] d).channel.Still dt := by
  induction hgo : d.channel.toGo using Nat.strong_induction_on generalizing d with
  | _ k ih =>
    cases ha : d.channel.advance dt with
    | error e =>
      exact ⟨0, .inl (Timing.idle_of_advance (not_lt_zero_iff.mpr hdt.nonNeg) ha)⟩
    | ok t =>
      have hnext : (d.turn dt).channel = t := channel_turn ha
      rcases hc.toGo_lt_or_still hdt hpos ha with hlt | hstill
      · obtain ⟨n, hn⟩ := ih _ (hgo ▸ hnext ▸ hlt) (clocked_turn hc hdt) rfl
        exact ⟨n + 1, hn⟩
      · exact ⟨1, hnext ▸ hstill⟩

/-- One step shows what a channel at a standstill reads, and the next finds that it equals itself.
-/
theorem turns_turn_of_still (hs : d.channel.Still dt) (hn : ¬d.channel.ReadsNaN) :
    (d.turn dt).turns dt = false := by
  have hchannel := channel_turn_of_still hs
  rcases hs with hidle | hsame
  · cases ha : (d.turn dt).channel.advance dt with
    | error e => exact (turn_error ha).2
    | ok t =>
      rw [hchannel] at ha
      exact (Bool.false_ne_true (hidle.symm.trans (Timing.started_of_advance ha))).elim
  · have hagain : (d.turn dt).channel.advance dt = .ok d.channel := by rwa [hchannel]
    have hnumber : ¬d.channel.current.isNaN = true := fun hnan =>
      hn ⟨Timing.started_of_advance hsame, hnan⟩
    have hshown : (d.channel.current == (d.turn dt).shown) = true := by
      by_cases heq : (d.channel.current == d.shown) = true
      · rwa [(turn_same hsame heq).1]
      · rw [(turn_new hsame heq).1]
        exact Binary.beq_self hnumber
    exact (turn_same hagain hshown).2

/-- What reads NaN is shown anew at each step, for it does not equal itself. -/
theorem turns_of_stranded (hs : d.channel.Stranded dt) :
    d.turns dt = true ∧ (d.turn dt).channel = d.channel := by
  refine ⟨?_, channel_turn_of_still hs.still⟩
  rcases hs.still with hidle | hsame
  · exact (Bool.false_ne_true (hidle.symm.trans hs.reads.1)).elim
  · have hnew : ¬(d.channel.current == d.shown) = true := by
      rw [Binary.beq_of_isNaN hs.reads.2]
      exact Bool.false_ne_true
    exact (turn_new hsame hnew).2

/-- Turned long enough, a dial shows nothing new any more, or its channel is stranded. -/
theorem comes_to_rest (hc : d.channel.Clocked) (hdt : dt.Amount) (hpos : dt.rank ≠ 0) :
    ∃ n, (∀ m ≥ n, ((turn dt)^[m] d).turns dt = false) ∨
      ∀ m ≥ n, ((turn dt)^[m] d).channel.Stranded dt := by
  obtain ⟨n, hstill⟩ := exists_still hc hdt hpos
  by_cases hnan : ((turn dt)^[n] d).channel.ReadsNaN
  · exact ⟨n, .inr fun m hm => channel_iterate_of_still hstill hm ▸ ⟨hstill, hnan⟩⟩
  · refine ⟨n + 1, .inl fun m hm => ?_⟩
    obtain ⟨k, rfl⟩ := Nat.exists_eq_add_of_le' hm
    have hsame := channel_iterate_of_still hstill (Nat.le_add_left n k)
    rw [Nat.add_succ, Function.iterate_succ_apply']
    exact turns_turn_of_still (hsame ▸ hstill) (hsame ▸ hnan)

end Dial

end Widgetry
