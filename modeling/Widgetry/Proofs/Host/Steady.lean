import Widgetry.Proofs.Host.Agreeing

/-! Computations that end alike at any time, whatever state their host has reached. -/
namespace Widgetry

variable {α σ β γ : Type} {act : HostM σ β}

/-- The result does not depend on the state of the host. -/
def Steady (act : HostM σ β) : Prop := ∀ h h', (act.run h).1 = (act.run h').1

/-- A steady computation is one that agrees with itself from any two states. -/
theorem steady_iff : Steady act ↔ Agree (fun _ _ => True) act act := by
  constructor
  · exact fun hs h h' _ => .inl ⟨hs h h', trivial⟩
  · intro hs h h'
    exact (hs.ends (s := h) (t := h') trivial).1

/-- The result is `b`, whatever the state of the host. -/
def Returns (act : HostM σ β) (b : β) : Prop := ∀ h, Ends act h fun r _ => r = .ok b

theorem Steady.returns (hs : Steady act) {b : β} {h : σ} (hr : (act.run h).1 = .ok b) :
    Returns act b := fun h' => (hs h' h).trans hr

namespace Returns

theorem pure (b : β) : Returns (Pure.pure b : HostM σ β) b := fun _ => rfl

theorem bind {b : β} {c : γ} {f : β → HostM σ γ} (h : Returns act b) (hf : Returns (f b) c) :
    Returns (act >>= f) c := by
  intro s
  refine (h s).bind (fun b' s' hb => ?_) fun e _ he => (error_ne_ok he).elim
  obtain rfl := Except.ok.inj hb
  exact hf s'

theorem check {e : Except Error β} {b : β} (h : e = .ok b) :
    Returns (liftExcept e : HostM σ β) b := by
  subst h
  exact .pure b

end Returns

theorem TabStyle.steady_itemWidth [Scalar α] (s : TabStyle α) {measurer : Measurer α σ}
    (hm : ∀ text, Steady (measurer text)) (item : String) : Steady (s.itemWidth measurer item) :=
  steady_iff.mpr (s.accord_itemWidth (fun text => steady_iff.mp (hm text)) item)

end Widgetry
