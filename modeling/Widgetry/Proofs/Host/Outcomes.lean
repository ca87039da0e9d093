import Widgetry.Proofs.Host.Ends

/-! Success and failure apart. That a computation succeeds in `post` comes down to what its parts
succeed in, so runs that come down to the same thing can be exchanged. Of a failure it is enough to
know what it leaves as it was. -/
namespace Widgetry

variable {σ β γ : Type} {act : HostM σ β} {s : σ} {post : β → σ → Prop}

/-- Run from `s`, the computation succeeds, and in `post`. -/
def Attains (act : HostM σ β) (s : σ) (post : β → σ → Prop) : Prop :=
  Ends act s fun r s' => ∃ b, r = .ok b ∧ post b s'

theorem Attains.imp {post' : β → σ → Prop} (h : Attains act s post)
    (hp : ∀ b s', post b s' → post' b s') : Attains act s post' := by
  apply Ends.imp h
  rintro _ s' ⟨b, rfl, hb⟩
  exact ⟨b, rfl, hp b s' hb⟩

/-- The success that is attained. -/
theorem Attains.run (h : Attains act s post) :
    Attains act s fun b s' => act.run s = (.ok b, s') ∧ post b s' := by
  apply (Ends.and (ends_run act s) h).imp
  rintro _ s' ⟨hrun, b, rfl, hb⟩
  exact ⟨b, rfl, hrun, hb⟩

theorem attains_iff : Attains act s post ↔ ∃ b s', act.run s = (.ok b, s') ∧ post b s' := by
  rw [Attains, Ends]
  rcases act.run s with ⟨r, s'⟩
  constructor
  · rintro ⟨b, rfl, hb⟩
    exact ⟨b, s', rfl, hb⟩
  · rintro ⟨b, s'', hrun, hb⟩
    obtain ⟨rfl, rfl⟩ := Prod.mk.inj hrun
    exact ⟨b, rfl, hb⟩

theorem attains_of_run {b : β} {s' : σ} (h : act.run s = (.ok b, s')) :
    Attains act s post ↔ post b s' := by
  rw [Attains, ends_of_run h]
  constructor
  · rintro ⟨_, ⟨⟩, hb⟩
    exact hb
  · exact fun hb => ⟨b, rfl, hb⟩

theorem attains_run {b : β} {s' : σ} :
    Attains act s (fun b₁ s₁ => b₁ = b ∧ s₁ = s') ↔ act.run s = (.ok b, s') := by
  rw [attains_iff]
  constructor
  · rintro ⟨_, _, hrun, rfl, rfl⟩
    exact hrun
  · exact fun hrun => ⟨b, s', hrun, rfl, rfl⟩

theorem attains_pure (b : β) : Attains (pure b : HostM σ β) s post ↔ post b s :=
  attains_of_run rfl

theorem attains_throw (e : Error) : ¬Attains (throw e : HostM σ β) s post := by
  rintro ⟨b, he, -⟩
  exact error_ne_ok he

theorem attains_liftExcept (e : Except Error β) :
    Attains (liftExcept e : HostM σ β) s post ↔ ∃ b, e = .ok b ∧ post b s := by
  rw [Attains, ends_liftExcept]

theorem attains_bind (f : β → HostM σ γ) {post : γ → σ → Prop} :
    Attains (act >>= f) s post ↔ Attains act s fun b s' => Attains (f b) s' post := by
  simp only [Attains, ends_bind]
  rcases hrun : act.run s with ⟨e | b, s'⟩
  all_goals
    rw [ends_of_run hrun, ends_of_run hrun]
    dsimp only
  · constructor
    all_goals
      rintro ⟨_, he, -⟩
      exact (error_ne_ok he).elim
  · constructor
    · exact fun h => ⟨b, rfl, h⟩
    · rintro ⟨_, ⟨⟩, h⟩
      exact h

/-- One success after the other. -/
theorem Attains.bind {f : β → HostM σ γ} {post' : γ → σ → Prop} (h : Attains act s post)
    (hf : ∀ b s', post b s' → Attains (f b) s' post') : Attains (act >>= f) s post' :=
  (attains_bind f).mpr (h.imp hf)

/-- A handler that does not succeed has no part in a success. -/
theorem attains_tryCatch {handler : Error → HostM σ β}
    (hh : ∀ e s', ¬Attains (handler e) s' post) :
    Attains (tryCatch act handler) s post ↔ Attains act s post := by
  simp only [Attains, ends_tryCatch]
  rcases hrun : act.run s with ⟨e | b, s'⟩
  all_goals rw [ends_of_run hrun, ends_of_run hrun]
  constructor
  · exact fun h => (hh e s' h).elim
  · rintro ⟨_, he, -⟩
    exact (error_ne_ok he).elim

/-- What holds before holds after a failure. -/
def Leaves (inv : σ → Prop) (act : HostM σ β) : Prop :=
  ∀ s, inv s → Ends act s fun r s' => ∀ e, r = .error e → inv s'

namespace Leaves

variable {inv : σ → Prop}

/-- Only the last stage may break what a failure leaves, and only if it succeeds. -/
theorem bind {f : β → HostM σ γ} (h : Keeps inv act) (hf : ∀ b, Leaves inv (f b)) :
    Leaves inv (act >>= f) := by
  intro s hs
  exact (h s hs).bind (fun b s' hs' => hf b s' hs') fun _ _ hs' _ _ => hs'

end Leaves

namespace Step

variable {ω ω' : Type} {p : ω × σ}

theorem leaves_update {inv : ω × σ → Prop} (f : ω → ω) :
    Leaves inv (update f : Step ω σ Unit) := fun _ _ => nofun

theorem leaves_self {inv : ω × σ → Prop} {f : ω → Step ω σ β}
    (hf : ∀ w h, inv (w, h) → Leaves inv (f w)) : Leaves inv (self >>= f) := by
  rintro ⟨w, h⟩ hi
  simpa using hf w h hi (w, h) hi

theorem attains_self {post : ω → ω × σ → Prop} :
    Attains (self : Step ω σ ω) p post ↔ post p.1 p := attains_of_run rfl

theorem attains_update (f : ω → ω) {post : Unit → ω × σ → Prop} :
    Attains (update f : Step ω σ Unit) p post ↔ post () (f p.1, p.2) := attains_of_run rfl

theorem attains_check (e : Except Error β) {post : β → ω × σ → Prop} :
    Attains (check e : Step ω σ β) p post ↔ ∃ b, e = .ok b ∧ post b p := attains_liftExcept e

theorem attains_host {post : β → ω × σ → Prop} :
    Attains (host act : Step ω σ β) p post ↔ Attains act p.2 fun b h => post b (p.1, h) := Iff.rfl

theorem attains_zoom (part : ω → ω') (put : ω' → ω → ω) (act : Step ω' σ β)
    {post : β → ω × σ → Prop} :
    Attains (zoom part put act) p post ↔
      Attains act (part p.1, p.2) fun b q => post b (put q.1 p.1, q.2) := Iff.rfl

end Step

end Widgetry
