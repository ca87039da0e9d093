import Widgetry.Proofs.Animation.Timing
import Widgetry.Tabs.Row

/-! Channels that are at rest, or idle, do not move the indicator, however much time passes. -/
namespace Widgetry

variable {α σ β : Type} [Scalar α]

namespace Gated

variable {g : Gated α} {h : σ}

omit [Scalar α] in
/-- A channel whose gate refuses a call stays as it is. -/
theorem ends_pass {ask : Lane → HostM σ Unit} {act : Step (Timing α) σ β}
    {post : Except Error β → Gated α × σ → Prop} (refused : ∀ e h', post (.error e) (g, h'))
    (passed : ∀ h', Ends act (g.timing, h') fun r p => post r ({ g with timing := p.1 }, p.2)) :
    Ends (pass ask act) (g, h) post := by
  obtain ⟨_ | lane, timing⟩ := g
  · exact passed h
  · unfold pass
    rw [ends_bind, Step.ends_self]
    dsimp only
    rw [ends_bind, Step.ends_host]
    apply (ends_run _ _).imp
    rintro (e | ⟨⟩) h' -
    · exact refused e h'
    · exact passed h'

variable [Gate σ]

theorem ends_begin_landed [HasZero α] (value : α) :
    Ends (Channel.begin value value 0 .linear : Step (Gated α) σ Unit) (g, h) fun r p =>
      match r with
      | .ok () => p.1.timing = .landed value
      | .error _ => p.1 = g := by
  refine ends_pass (fun _ _ => rfl) fun h' => ?_
  rw [Timing.beginStep, Timing.begin_landed]
  rfl

theorem ends_value :
    Ends (Channel.value : Step (Gated α) σ α) (g, h) fun r p =>
      p.1 = g ∧ ∀ v, r = .ok v → v = g.timing.current := by
  refine ends_pass (fun _ _ => ⟨rfl, nofun⟩) fun h' => ⟨rfl, ?_⟩
  rintro v ⟨⟩
  rfl

theorem ends_step_rest {value : α} (hg : g.timing.RestsOn value) (dt : α) :
    Ends (Channel.step dt : Step (Gated α) σ (Reading α)) (g, h) fun r p =>
      p.1 = g ∧ ∀ reading, r = .ok reading → reading.value = value := by
  refine ends_pass (fun _ _ => ⟨rfl, nofun⟩) fun h' => ?_
  rw [Timing.advanceStep, ends_bind, Step.ends_self]
  refine .of_check (fun t ht => ?_) fun _ _ => ⟨rfl, nofun⟩
  obtain rfl := Timing.advance_stopped hg.1 ht
  refine ⟨rfl, ?_⟩
  rintro reading ⟨⟩
  exact hg.2

end Gated

namespace TabRow

/-- Both channels are at rest on the target, and so is the indicator. -/
structure Rests (row : TabRow α σ (Gated α)) (target : α × α) : Prop where
  position : row.positionChannel.timing = .landed target.1
  width : row.widthChannel.timing = .landed target.2
  indicator : row.indicator = target

/-- Neither channel is on its way, and the indicator is where they rest. -/
structure Settled (row : TabRow α σ (Gated α)) (target : α × α) : Prop where
  position : row.positionChannel.timing.RestsOn target.1
  width : row.widthChannel.timing.RestsOn target.2
  indicator : row.indicator = target

structure Idles (row : TabRow α σ (Gated α)) : Prop where
  position : row.positionChannel.timing.started = false
  width : row.widthChannel.timing.started = false

variable {row : TabRow α σ (Gated α)} {h : σ} {layout : TabLayout α}

theorem Rests.settled {target : α × α} (hr : Rests row target) : Settled row target where
  position := hr.position ▸ Timing.landed_restsOn _
  width := hr.width ▸ Timing.landed_restsOn _
  indicator := hr.indicator

variable [Gate σ]

section Lane

variable (part : TabRow α σ (Gated α) → Gated α)
  (put : Gated α → TabRow α σ (Gated α) → TabRow α σ (Gated α)) (read : TabRow α σ (Gated α) → α)
  (write : α → TabRow α σ (Gated α) → TabRow α σ (Gated α))

/-- A step of one channel of the indicator, for the number that is read off it. -/
def stepLane (dt : α) : Step (TabRow α σ (Gated α)) σ Bool := do
  let row ← Step.self
  if Channel.isIdle σ (part row) then return false
  else
    let reading ← Step.zoom part put (Channel.step dt)
    if reading.value == read row then return false
    else
      Step.update (write reading.value)
      return true

variable {part put read write}

theorem ends_stepLane_still (hput : put (part row) row = row) (hwrite : write (read row) row = row)
    (hrow : (part row).timing.RestsOn (read row) ∨ (part row).timing.started = false) (dt : α) :
    Ends (stepLane part put read write dt) (row, h) fun _ p => p.1 = row := by
  rw [stepLane, ends_bind, Step.ends_self]
  dsimp only
  split
  · rfl
  next hidle =>
    rcases hrow with hrest | hstopped
    · rw [ends_bind, Step.ends_zoom]
      apply (Gated.ends_step_rest hrest dt).imp
      rintro (e | reading) ⟨g, h'⟩ ⟨hg, hvalue⟩
      all_goals
        obtain rfl : g = part row := hg
        dsimp only
      · exact hput
      · rw [hput]
        split
        · rfl
        · change write reading.value row = row
          rw [hvalue reading rfl, hwrite]
    · exact (hidle (by simp [Channel.isIdle, hstopped])).elim

end Lane

theorem ends_stepPosition_still (hrow : row.positionChannel.timing.RestsOn row.indicatorStart ∨
      row.positionChannel.timing.started = false) (dt : α) :
    Ends (stepPosition dt) (row, h) fun _ p => p.1 = row := by
  change Ends (stepLane positionChannel (fun positionChannel row => { row with positionChannel })
    indicatorStart (fun indicatorStart row => { row with indicatorStart }) dt) (row, h) _
  exact ends_stepLane_still rfl rfl hrow dt

theorem ends_stepWidth_still (hrow : row.widthChannel.timing.RestsOn row.indicatorWidth ∨
      row.widthChannel.timing.started = false) (dt : α) :
    Ends (stepWidth dt) (row, h) fun _ p => p.1 = row := by
  change Ends (stepLane widthChannel (fun widthChannel row => { row with widthChannel })
    indicatorWidth (fun indicatorWidth row => { row with indicatorWidth }) dt) (row, h) _
  exact ends_stepLane_still rfl rfl hrow dt

/-- A row whose channels are both at rest, or both idle, does not move. -/
theorem ends_step_still (hrow : (∃ target, Settled row target) ∨ Idles row) (dt : α) :
    Ends (step dt) (row, h) fun _ p => p.1 = row := by
  have hposition : row.positionChannel.timing.RestsOn row.indicatorStart ∨
      row.positionChannel.timing.started = false := by
    rcases hrow with ⟨_, hsettled⟩ | hidles
    · left
      obtain rfl := hsettled.indicator
      exact hsettled.position
    · exact .inr hidles.position
  have hwidth : row.widthChannel.timing.RestsOn row.indicatorWidth ∨
      row.widthChannel.timing.started = false := by
    rcases hrow with ⟨_, hsettled⟩ | hidles
    · left
      obtain rfl := hsettled.indicator
      exact hsettled.width
    · exact .inr hidles.width
  unfold step
  split
  · rfl
  · refine (ends_stepPosition_still hposition dt).bind ?_ fun _ _ hp => hp
    rintro moved ⟨_, h'⟩ rfl
    refine (ends_stepWidth_still hwidth dt).bind ?_ fun _ _ hp => hp
    rintro resized ⟨_, h''⟩ rfl
    rfl

/-- Some time passes, and then some more. -/
def stepAll (dts : List α) (p : TabRow α σ (Gated α) × σ) : TabRow α σ (Gated α) × σ :=
  dts.foldl (fun p dt => ((step dt).run p).2) p

theorem stepAll_still (hrow : (∃ target, Settled row target) ∨ Idles row) (dts : List α) :
    (stepAll dts (row, h)).1 = row := by
  induction dts generalizing h with
  | nil => rfl
  | cons dt dts ih =>
    have hstep : ((step dt).run (row, h)).2.1 = row := ends_step_still hrow dt
    have hnext : ((step dt).run (row, h)).2 = (row, ((step dt).run (row, h)).2.2) :=
      Prod.ext hstep rfl
    rw [stepAll, List.foldl_cons, hnext]
    exact ih

end TabRow

end Widgetry
