import Widgetry.Proofs.Animation.Timing

/-! A number that is shown as its channel reads. A step shows the new reading where it does not
equal the one before, and tells whether it did. -/
namespace Widgetry

/-- A channel, and what is shown of it. -/
structure Dial (α : Type) where
  channel : Timing α
  shown : α

namespace Dial

variable {α : Type} [Scalar α] {d : Dial α} {dt target : α} {t : Timing α}

/-- An idle channel is left alone. -/
def turn (dt : α) (d : Dial α) : Dial α :=
  match d.channel.advance dt with
  | .error _ => d
  | .ok t => ⟨t, if t.current == d.shown then d.shown else t.current⟩

/-- The step shows something new. -/
def turns (dt : α) (d : Dial α) : Bool :=
  match d.channel.advance dt with
  | .error _ => false
  | .ok t => !(t.current == d.shown)

theorem turn_error {e : Error} (ha : d.channel.advance dt = .error e) :
    d.turn dt = d ∧ d.turns dt = false := by
  rw [turn, turns, ha]
  exact ⟨rfl, rfl⟩

theorem turn_same (ha : d.channel.advance dt = .ok t) (hs : (t.current == d.shown) = true) :
    d.turn dt = ⟨t, d.shown⟩ ∧ d.turns dt = false := by
  rw [turn, turns, ha]
  dsimp only
  rw [if_pos hs, hs]
  exact ⟨rfl, rfl⟩

theorem turn_new (ha : d.channel.advance dt = .ok t) (hn : ¬(t.current == d.shown) = true) :
    d.turn dt = ⟨t, t.current⟩ ∧ d.turns dt = true := by
  rw [turn, turns, ha]
  dsimp only
  rw [if_neg hn, Bool.eq_false_iff.mpr hn]
  exact ⟨rfl, rfl⟩

theorem channel_turn (ha : d.channel.advance dt = .ok t) : (d.turn dt).channel = t := by
  rw [turn, ha]

/-- A dial goes on to where its channel goes. -/
theorem tracks_turn (ht : d.channel.Tracks d.shown target) :
    (d.turn dt).channel.Tracks (d.turn dt).shown target := by
  cases ha : d.channel.advance dt with
  | error e => rwa [(turn_error ha).1]
  | ok t =>
    by_cases hsame : (t.current == d.shown) = true
    · rw [(turn_same ha hsame).1]
      exact (ht.advance ha).reshown hsame
    · rw [(turn_new ha hsame).1]
      exact ht.advance ha

section Step

variable {σ ω : Type} (part : ω → Dial α) (put : Timing α → ω → ω) (write : α → ω → ω)

/-- A step of a thing that has such a dial. -/
def stepIn (dt : α) : Step ω σ Bool := do
  let w ← Step.self
  if Channel.isIdle σ (part w).channel then return false
  else
    let reading ← Step.zoom (fun w => (part w).channel) put (Channel.step dt)
    if reading.value == (part w).shown then return false
    else
      Step.update (write reading.value)
      return true

variable {part put write} {w : ω} {h : σ}

/-- The dial is turned, and the host is asked nothing. -/
theorem stepIn_run (hdt : ¬dt < 0) (hput : put (part w).channel w = w)
    (hwrite : ∀ t, write (part w).shown (put t w) = put t w) :
    (stepIn part put write dt).run (w, h) = (.ok ((part w).turns dt),
      write ((part w).turn dt).shown (put ((part w).turn dt).channel w), h) := by
  change Ends (stepIn part put write dt) (w, h) fun r p => (r, p) = _
  rw [stepIn, ends_bind, Step.ends_self]
  dsimp only
  cases ha : (part w).channel.advance dt with
  | error e =>
    have hidle : Channel.isIdle σ (part w).channel = true := by
      simp [Channel.isIdle, Timing.idle_of_advance hdt ha]
    rw [if_pos hidle, (turn_error ha).1, (turn_error ha).2, hwrite, hput]
    rfl
  | ok t =>
    have hstarted : ¬Channel.isIdle σ (part w).channel = true := by
      simp [Channel.isIdle, Timing.started_of_advance ha]
    rw [if_neg hstarted, ends_bind, Step.ends_zoom, Timing.ends_advance, ha]
    dsimp only
    split
    next hsame =>
      rw [(turn_same ha hsame).1, (turn_same ha hsame).2, hwrite]
      rfl
    next hnew =>
      rw [(turn_new ha hnew).1, (turn_new ha hnew).2]
      rfl

end Step

end Dial

end Widgetry
