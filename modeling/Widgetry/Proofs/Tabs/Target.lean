import Widgetry.Proofs.Host.Echoes
import Widgetry.Proofs.Tabs.Core

/-! Where the indicator of a selection belongs: whatever host answers it, and whatever it refuses,
hosts that measure alike give one answer. -/
namespace Widgetry

variable {α σ : Type} [Scalar α]

namespace TabRow

/-- The indicator of the selection starts and ends at `target`: so the host has answered, and so
it answers whenever it answers if it always measures alike. -/
structure TargetOf [TextHost α σ] (c : TabCore α σ) (layout : TabLayout α) (target : α × α) :
    Prop where
  answered : ∃ (measurer : Measurer α σ) (s s' : σ), c.font.measurer = .ok measurer ∧
    (c.style.indicatorTarget measurer c.items layout c.selected).run s = (.ok target, s')
  pinned : ∀ (measurer : Measurer α σ) metrics, c.font.measurer = .ok measurer →
    Answers measurer metrics →
    (c.style.indicatorTarget (fun text => pure (metrics text)) c.items layout c.selected).run () =
      (.ok target, ())

theorem targetOf_of_run [TextHost α σ] {c : TabCore α σ} {layout : TabLayout α}
    {measurer : Measurer α σ} {s s' : σ} {target : α × α} (hm : c.font.measurer = .ok measurer)
    (hrun : (c.style.indicatorTarget measurer c.items layout c.selected).run s =
      (.ok target, s')) : TargetOf c layout target := by
  refine ⟨⟨measurer, s, s', hm, hrun⟩, fun measurer' metrics hm' hanswers => ?_⟩
  obtain rfl : measurer = measurer' := Except.ok.inj (hm.symm.trans hm')
  have hmirrors := mirrors_iff.mpr
    (c.style.echoes_indicatorTarget hanswers.echoes c.items layout c.selected) s
  rw [ends_of_run hrun] at hmirrors
  exact hmirrors target rfl

end TabRow

end Widgetry
