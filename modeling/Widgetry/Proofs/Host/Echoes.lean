import Widgetry.Proofs.Host.Agreeing

/-! Geometry without a host. A host that measures by certain metrics brings out what the metrics
alone do; only where it may refuse can it also bring out an error. -/
namespace Widgetry

variable {α σ β : Type}

/-- The computation ends as `still` does without a host. If `loss` is granted, it may also fail. -/
def Echoes (loss : Prop) (act : HostM σ β) (still : HostM Unit β) : Prop :=
  ∀ s, Ends act s fun r _ => r = (still.run ()).1 ∨ loss ∧ ∃ e, r = .error e

/-- Whenever the computation succeeds, it gives what `still` gives without a host. -/
def Mirrors (act : HostM σ β) (still : HostM Unit β) : Prop :=
  ∀ s, Ends act s fun r _ => ∀ b, r = .ok b → still.run () = (.ok b, ())

/-- Whenever the measurer answers, it answers `metrics`. -/
def Answers (measurer : Measurer α σ) (metrics : String → TextMetrics α) : Prop :=
  ∀ text, Mirrors (measurer text) (pure (metrics text))

theorem mirrors_iff {act : HostM σ β} {still : HostM Unit β} :
    Mirrors act still ↔ Echoes True act still := by
  constructor
  all_goals
    intro h s
    apply (h s).imp
  · rintro (e | b) _ hr
    · exact .inr ⟨trivial, e, rfl⟩
    · exact .inl (by rw [hr b rfl])
  · rintro _ _ (hr | ⟨-, e, rfl⟩) b hb
    · exact Prod.ext (hr.symm.trans hb) rfl
    · exact (error_ne_ok hb).elim

theorem Answers.echoes {measurer : Measurer α σ} {metrics : String → TextMetrics α}
    (ha : Answers measurer metrics) (text : String) :
    Echoes True (measurer text) (pure (metrics text)) := mirrors_iff.mp (ha text)

theorem Answers.ends {measurer : Measurer α σ} {metrics : String → TextMetrics α}
    (ha : Answers measurer metrics) (text : String) {s : σ} :
    Ends (measurer text) s fun r _ => ∀ m, r = .ok m → m = metrics text := by
  apply (ha text s).imp
  intro r _ hr m hm
  exact (Except.ok.inj (congrArg Prod.fst (hr m hm))).symm

variable {loss : Prop}

/-- Without a host there is nothing to relate. -/
theorem echoes_iff {act : HostM σ β} {still : HostM Unit β} :
    Echoes loss act still ↔ Accord loss (fun _ _ => True) act still := by
  constructor
  · intro h s t _
    apply (h s).imp
    exact fun r s' hr => hr.imp_left fun heq => ⟨heq, trivial⟩
  · intro h s
    apply (h s () trivial).imp
    exact fun r s' hr => Or.imp_left And.left hr

namespace TabStyle

variable [Scalar α] (s : TabStyle α) {measurer : Measurer α σ} {metrics : String → TextMetrics α}
  (hm : ∀ text, Echoes loss (measurer text) (pure (metrics text)))
include hm

theorem echoes_computeLayout (items : List String) (bounds : Rect α) :
    Echoes loss (s.computeLayout measurer items bounds)
      (s.computeLayout (fun text => pure (metrics text)) items bounds) :=
  echoes_iff.mpr (s.accord_computeLayout (fun text => echoes_iff.mp (hm text)) items bounds)

theorem echoes_indicatorTarget (items : List String) (l : TabLayout α) (selected : Option Nat) :
    Echoes loss (s.indicatorTarget measurer items l selected)
      (s.indicatorTarget (fun text => pure (metrics text)) items l selected) :=
  echoes_iff.mpr (s.accord_indicatorTarget (fun text => echoes_iff.mp (hm text)) items l selected)

theorem echoes_hitTest (items : List String) (l : TabLayout α) (x y scroll : α) :
    Echoes loss (s.hitTest measurer items l x y scroll)
      (s.hitTest (fun text => pure (metrics text)) items l x y scroll) :=
  echoes_iff.mpr (s.accord_hitTest (fun text => echoes_iff.mp (hm text)) items l x y scroll)

end TabStyle

end Widgetry
