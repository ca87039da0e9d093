import Widgetry.Proofs.Host.Scripted
import Widgetry.Proofs.Operations
import Widgetry.Proofs.Tabs.Snap

/-! A selection that is refused, by the indicator or by the listener, leaves both channels of the
indicator in one condition: at rest on the old selection, or idle. -/
namespace Widgetry

open Step (At)

variable {α σ β γ : Type} [Scalar α]

namespace TabRow

variable {row : TabRow α σ (Gated α)} {h : σ} {layout : TabLayout α}

omit [Scalar α] in
/-- The listener sees nothing of the row. -/
theorem keeps_accept (listener : Option (TabListener σ)) (index : Nat) (c : TabCore α σ) :
    Keeps (At core c fun _ => True) (match listener with
      | some listener => Step.host (listener index)
      | none => pure () : Step (TabRow α σ (Gated α)) σ Unit) := by
  cases listener with
  | none => exact .pure _
  | some listener => exact Step.keeps_at_host (.of_true _)

variable [Gate σ] [TextHost α σ] [HasZero α]

/-- A row as it was about to be, at rest on that selection or with both channels idle. -/
structure Undone (c : TabCore α σ) (layout : TabLayout α) (row : TabRow α σ (Gated α)) : Prop where
  selected : row.selected = c.selected
  channels : (∃ target, TargetOf c layout target ∧ Rests row target) ∨ Idles row

omit [HasZero α] [Gate σ] in
theorem Undone.released {c : TabCore α σ} (hu : Undone c layout row) :
    Undone c layout { row with pressed := none } where
  selected := hu.selected
  channels := by
    rcases hu.channels with ⟨target, htarget, hrests⟩ | hidles
    · exact .inl ⟨target, htarget, hrests.position, hrests.width, hrests.indicator⟩
    · exact .inr ⟨hidles.position, hidles.width⟩

/-- Either the indicator comes to rest on the old selection, or both channels are reset. -/
theorem ends_rollBack_undone (previous : Option Nat) :
    Ends (rollBack previous layout) (row, h) fun r p =>
      r = .ok () ∧ Undone { row.core with selected := previous } layout p.1 := by
  rw [rollBack, ends_bind, Step.ends_update, ends_tryCatch]
  have hcore := keeps_syncIndicator (calls_true row.font) layout false
    ({ row with selected := previous }, h) ⟨rfl, trivial⟩
  have hsnap : Ends (syncIndicator layout false) ({ row with selected := previous }, h) _ :=
    ends_snap
  apply (hcore.and hsnap).imp
  rintro (e | ⟨⟩) ⟨row', h'⟩ ⟨⟨hc, -⟩, hsnapped⟩
  · refine ⟨rfl, congrArg TabCore.selected hc, .inr ⟨rfl, rfl⟩⟩
  · cases hsnapped with
    | done htarget hrests =>
      exact ⟨rfl, congrArg TabCore.selected hc, .inl ⟨_, htarget, hrests⟩⟩

/-- Whatever refuses the selection, the way back is the same. -/
theorem ends_selectOrRollBack_refused {selected : Option Nat}
    {accept : Step (TabRow α σ (Gated α)) σ Unit}
    (haccept : ∀ c, Keeps (At core c fun _ => True) accept) :
    Ends (selectOrRollBack selected layout accept) (row, h) fun r p =>
      r ≠ .ok () → Undone row.core layout p.1 := by
  have hbody : Keeps (At core { row.core with selected } fun _ => True)
      (do syncIndicator layout true; accept : Step (TabRow α σ (Gated α)) σ Unit) :=
    (keeps_syncIndicator (calls_true row.font) layout true).bind fun _ => haccept _
  rw [selectOrRollBack, ends_bind, Step.ends_self]
  dsimp only
  rw [ends_bind, Step.ends_update]
  refine Ends.tryCatch (hbody ({ row with selected }, h) ⟨rfl, trivial⟩)
    (fun ⟨⟩ _ _ hr => (hr rfl).elim) ?_
  rintro e ⟨row', h'⟩ ⟨hc, -⟩
  rw [ends_bind]
  apply (ends_rollBack_undone row.selected).imp
  rintro _ p ⟨rfl, hundone⟩
  intro _
  have hback : ({ row'.core with selected := row.selected } : TabCore α σ) = row.core := by
    rw [(hc : row'.core = _)]
    rfl
  rwa [hback] at hundone

theorem ends_setSelected_refused {selected : Option Nat} {p : TabRow α σ (Gated α) × σ}
    (valid : Validate.selection selected row.items.length = .ok ())
    (placed : ¬row.bounds.isDegenerate)
    (laid : (currentLayout : Step (TabRow α σ (Gated α)) σ _).run (row, h) = (.ok layout, p)) :
    Ends (setSelected selected) (row, h) fun r q => r ≠ .ok () → Undone row.core layout q.1 := by
  have hcore := keeps_currentLayout (calls_true row.font) (row, h) ⟨rfl, trivial⟩
  rw [ends_of_run laid] at hcore
  have hc : p.1.core = row.core := hcore.1
  rw [setSelected, ends_bind, Step.ends_self]
  dsimp only
  rw [valid]
  change Ends (if row.bounds.isDegenerate then _ else _) (row, h) _
  rw [if_neg placed, ends_bind, ends_of_run laid, ← hc]
  exact ends_selectOrRollBack_refused fun _ => .pure _

theorem ends_pointerUp_refused {point : Point} {index : Option Nat} {p : TabRow α σ (Gated α) × σ}
    (laid : (hit point : Step (TabRow α σ (Gated α)) σ _).run (row, h) =
      (.ok (layout, index), p)) :
    Ends (handleEvent (.pointerUp point)) (row, h) fun r q =>
      (∀ e, r = .error e → Undone row.core layout q.1) := by
  by_cases hd : row.flags.has WidgetFlags.disabled
  · exact (ends_handleEvent_disabled hd).mpr nofun
  have hcore := keeps_hit (calls_true row.font) point (row, h) ⟨rfl, trivial⟩
  rw [ends_of_run laid] at hcore
  have hc : p.1.core = row.core := hcore.1
  rw [ends_handleEvent hd]
  dsimp only
  rw [onPointerUp, ends_bind, ends_of_run laid]
  dsimp only
  rw [ends_bind, Step.ends_self]
  dsimp only
  cases p.1.pressed with
  | none => exact nofun
  | some pressed =>
    dsimp only
    rw [ends_bind, ends_tryCatch]
    split
    · rw [commit, ends_bind, Step.ends_self]
      dsimp only
      apply (ends_selectOrRollBack_refused (keeps_accept p.1.onSelect pressed)).imp
      rintro (e | ⟨⟩) q hundone
      · intro _ _
        rw [hc] at hundone
        exact (hundone nofun).released
      · exact nofun
    · exact nofun

/-- A selection that fails after its layout has been computed: one that the program sets, or one
that a tap makes. -/
inductive Refused (p : TabRow α σ (Gated α) × σ) :
    TabLayout α → TabRow α σ (Gated α) × σ → Prop
  | set {selected : Option Nat} {layout : TabLayout α} {p' q : TabRow α σ (Gated α) × σ} {e : Error}
      (valid : Validate.selection selected p.1.items.length = .ok ())
      (placed : ¬p.1.bounds.isDegenerate)
      (laid : (currentLayout : Step (TabRow α σ (Gated α)) σ _).run p = (.ok layout, p'))
      (failed : (setSelected selected).run p = (.error e, q)) : Refused p layout q
  | tap {point : Point} {layout : TabLayout α} {index : Option Nat}
      {p' q : TabRow α σ (Gated α) × σ} {e : Error}
      (laid : (hit point).run p = (.ok (layout, index), p'))
      (failed : (handleEvent (.pointerUp point)).run p = (.error e, q)) : Refused p layout q

end TabRow

/-- Wherever a selection fails, and even if the way back fails too, the old selection stands and the
channels agree: both rest on its target, where the indicator is, or both are idle. So time does not
move the indicator. -/
theorem TabRow.refused_selection {σ : Type} [TextHost Binary32 σ] [Gate σ]
    {p q : TabRow Binary32 σ (Gated Binary32) × σ} {layout : TabLayout Binary32}
    (hrefused : Refused p layout q) :
    q.1.selected = p.1.selected ∧
      ((∃ target, TargetOf p.1.core layout target ∧ Rests q.1 target) ∨ Idles q.1) ∧
      ∀ dts, (stepAll dts q).1.indicator = q.1.indicator := by
  have hundone : Undone p.1.core layout q.1 := by
    cases hrefused with
    | set valid placed laid failed =>
      have hends := ends_setSelected_refused valid placed laid
      rw [ends_of_run failed] at hends
      exact hends nofun
    | tap laid failed =>
      have hends := ends_pointerUp_refused laid
      rw [ends_of_run failed] at hends
      exact hends _ rfl
  refine ⟨hundone.selected, hundone.channels, fun dts => ?_⟩
  have hcalm : (∃ target, Settled q.1 target) ∨ Idles q.1 :=
    hundone.channels.imp_left fun ⟨target, hrests⟩ => ⟨target, hrests.2.settled⟩
  rw [stepAll_still hcalm dts]

/-- A row that is laid out without a refusal. When another tab is selected, its second channel
refuses to follow, and on the way back it does so again. -/
def refusedLane : TabRow Binary32 (Scripted Binary32) (Gated Binary32) × Scripted Binary32 :=
  ((TabRow.layout ⟨0, 0, 200, 48⟩).run (Scripted.row .default ["one", "two"]
    ⟨some .position, .idle⟩ ⟨some .width, .idle⟩,
    .start (List.replicate 9 false ++ [true, false, true]))).2

theorem TabRow.refused_selection_lane : ∃ layout q,
    Refused refusedLane layout q ∧ q.1.selected = refusedLane.1.selected ∧ Idles q.1 ∧
      ∀ dts, (stepAll dts q).1.indicator = q.1.indicator := by
  have hcount : refusedLane.1.items.length = 2 := by decide +kernel
  have hplaced : ¬refusedLane.1.bounds.isDegenerate := by decide +kernel
  have hlaid : (currentLayout.run refusedLane).1.isOk = true := by decide +kernel
  have hfailed : ((setSelected (some 1)).run refusedLane).1.isOk = false := by decide +kernel
  have hidle : ((setSelected (some 1)).run refusedLane).2.1.positionChannel.timing.started = false ∧
      ((setSelected (some 1)).run refusedLane).2.1.widthChannel.timing.started = false := by
    decide +kernel
  rcases hlayout : currentLayout.run refusedLane with ⟨e | layout, p⟩
  · rw [hlayout] at hlaid
    exact nomatch hlaid
  rcases hset : (setSelected (some 1)).run refusedLane with ⟨e | ⟨⟩, q⟩
  · rw [hset] at hidle
    have hvalid : Validate.selection (some 1) refusedLane.1.items.length = .ok () := by
      rw [hcount]
      rfl
    have hrefused : Refused refusedLane layout q := .set hvalid hplaced hlayout hset
    obtain ⟨hselected, -, hstill⟩ := refused_selection hrefused
    exact ⟨layout, q, hrefused, hselected, ⟨hidle.1, hidle.2⟩, hstill⟩
  · rw [hset] at hfailed
    exact nomatch hfailed

end Widgetry
