import Widgetry.Proofs.Tabs.Stillness
import Widgetry.Proofs.Tabs.Target

/-! How a sync that snaps ends: with the whole indicator at rest on the target, with nothing done,
or half-way, with the position channel on the target and the indicator where it was. -/
namespace Widgetry.TabRow

variable {α σ : Type} [Scalar α] [TextHost α σ]

/-- How a sync that snaps leaves a row. -/
inductive Snapped (row : TabRow α σ (Gated α)) (layout : TabLayout α) :
    Except Error Unit → TabRow α σ (Gated α) → Prop
  | done {row' : TabRow α σ (Gated α)} {target : α × α}
      (targeted : TargetOf row.core layout target) (rests : Rests row' target) :
      Snapped row layout (.ok ()) row'
  | untouched {e : Error} : Snapped row layout (.error e) row
  | halfway {e : Error} {target : α × α} {positionChannel widthChannel : Gated α}
      (targeted : TargetOf row.core layout target)
      (position : positionChannel.timing = .landed target.1)
      (width : widthChannel.timing = row.widthChannel.timing ∨
        widthChannel.timing = .landed target.2) :
      Snapped row layout (.error e) { row with positionChannel, widthChannel }

variable {row : TabRow α σ (Gated α)} {h : σ} {layout : TabLayout α} [Gate σ] [HasZero α]

theorem ends_snap : Ends (syncIndicator layout false) (row, h) fun r p =>
    Snapped row layout r p.1 := by
  rw [syncIndicator, ends_bind, Step.ends_self]
  refine .of_check (fun measurer hm => ?_) fun _ _ => .untouched
  rw [ends_bind, Step.ends_host]
  apply (ends_run _ _).imp
  rintro (e | ⟨start, width⟩) h₁ hrun
  · exact .untouched
  have htarget : TargetOf row.core layout (start, width) := targetOf_of_run hm hrun
  dsimp only
  rw [if_neg Bool.false_ne_true, ends_bind, onPosition, Step.ends_zoom]
  apply (Gated.ends_begin_landed start).imp
  rintro (e | ⟨⟩) ⟨position, h₂⟩ hposition
  · obtain rfl : position = row.positionChannel := hposition
    exact .untouched
  dsimp only
  rw [ends_bind, onWidth, Step.ends_zoom]
  apply (Gated.ends_begin_landed width).imp
  rintro (e | ⟨⟩) ⟨widthChannel, h₃⟩ hwidth
  · obtain rfl : widthChannel = row.widthChannel := hwidth
    exact .halfway htarget hposition (.inl rfl)
  dsimp only
  rw [ends_bind, onPosition, Step.ends_zoom]
  apply Gated.ends_value.imp
  rintro (e | v) ⟨position, h₄⟩ ⟨rfl, hv⟩
  · exact .halfway htarget hposition (.inr hwidth)
  dsimp only
  rw [ends_bind, onWidth, Step.ends_zoom]
  apply Gated.ends_value.imp
  rintro (e | w) ⟨widthChannel, h₅⟩ ⟨rfl, hw⟩
  · exact .halfway htarget hposition (.inr hwidth)
  obtain rfl : v = start := by
    rw [hv v rfl, show position.timing = _ from hposition]
    rfl
  obtain rfl : w = width := by
    rw [hw w rfl, show widthChannel.timing = _ from hwidth]
    rfl
  exact .done htarget ⟨hposition, hwidth, rfl⟩

end Widgetry.TabRow
