import Widgetry.Proofs.Host.Ends

/-! Two computations that cannot be told apart. Each host state of the one is related to one of the
other; from related states they give the same, and they leave related states. -/
namespace Widgetry

variable {σ τ β γ : Type} {R : σ → τ → Prop} {loss : Prop}

/-- From related states both computations give the same and end in related states. If `loss` is
granted, the first one may also fail. -/
def Accord (loss : Prop) (R : σ → τ → Prop) (act : HostM σ β) (act' : HostM τ β) : Prop :=
  ∀ s t, R s t → Ends act s fun r s' => Ends act' t fun r' t' =>
    r = r' ∧ R s' t' ∨ loss ∧ ∃ e, r = .error e

abbrev Agree (R : σ → τ → Prop) (act : HostM σ β) (act' : HostM τ β) : Prop :=
  Accord False R act act'

theorem Agree.ends {act : HostM σ β} {act' : HostM τ β} (h : Agree R act act') {s : σ} {t : τ}
    (hR : R s t) : Ends act s fun r s' => Ends act' t fun r' t' => r = r' ∧ R s' t' := by
  apply (h s t hR).imp
  exact fun r s' h' => h'.imp fun r' t' hr => hr.resolve_right fun hloss => hloss.1

theorem agree_of_ends {act : HostM σ β} {act' : HostM τ β}
    (h : ∀ s t, R s t → Ends act s fun r s' => Ends act' t fun r' t' => r = r' ∧ R s' t') :
    Agree R act act' :=
  fun s t hR => (h s t hR).imp fun _ _ h' => h'.imp fun _ _ hr => .inl hr

theorem agree_eq (act : HostM σ β) : Agree Eq act act := by
  rintro s _ rfl
  exact .inl ⟨rfl, rfl⟩

/-- A computation that agrees with itself, run from a state that is related to itself. -/
theorem Agree.ends_self {R : σ → σ → Prop} {act : HostM σ β} (h : Agree R act act) {s : σ}
    (hs : R s s) : Ends act s fun _ s' => R s' s' := (h.ends hs).2

/-- What is kept, the same computation run twice keeps. -/
theorem keeps_iff {inv : σ → Prop} {act : HostM σ β} :
    Keeps inv act ↔ Agree (fun s t => s = t ∧ inv s) act act := by
  constructor
  · rintro h s _ ⟨rfl, hs⟩
    exact .inl ⟨rfl, rfl, h s hs⟩
  · intro h s hs
    exact (h.ends_self ⟨rfl, hs⟩).imp fun _ _ hs' => hs'.2

namespace Accord

theorem pure (b : β) : Accord loss R (Pure.pure b) (Pure.pure b) := fun _ _ hR => .inl ⟨rfl, hR⟩

theorem throw (e : Error) : Accord loss R (throw e : HostM σ β) (throw e) :=
  fun _ _ hR => .inl ⟨rfl, hR⟩

theorem check (r : Except Error β) : Accord loss R (liftExcept r : HostM σ β) (liftExcept r) := by
  cases r with
  | error e => exact throw e
  | ok b => exact pure b

theorem bind {act : HostM σ β} {act' : HostM τ β} {f : β → HostM σ γ} {g : β → HostM τ γ}
    (h : Accord loss R act act') (hf : ∀ b, Accord loss R (f b) (g b)) :
    Accord loss R (act >>= f) (act' >>= g) := by
  intro s t hR
  have hboth := h s t hR
  rcases hs : act.run s with ⟨r, s'⟩
  rcases ht : act'.run t with ⟨r', t'⟩
  rw [ends_of_run hs, ends_of_run ht] at hboth
  rw [ends_bind, ends_of_run hs]
  obtain ⟨rfl, hR'⟩ | ⟨hloss, e, rfl⟩ := hboth
  · cases r with
    | error e =>
      dsimp only
      rw [ends_bind, ends_of_run ht]
      exact .inl ⟨rfl, hR'⟩
    | ok b =>
      simp only [ends_bind, ends_of_run ht]
      exact hf b s' t' hR'
  · exact (ends_run _ _).imp fun _ _ _ => .inr ⟨hloss, e, rfl⟩

theorem tryCatch {act : HostM σ β} {act' : HostM τ β} {f : Error → HostM σ β}
    {g : Error → HostM τ β} (h : Agree R act act') (hf : ∀ e, Agree R (f e) (g e)) :
    Agree R (tryCatch act f) (tryCatch act' g) := by
  intro s t hR
  have hboth := h.ends hR
  rcases hs : act.run s with ⟨r, s'⟩
  rcases ht : act'.run t with ⟨r', t'⟩
  rw [ends_of_run hs, ends_of_run ht] at hboth
  obtain ⟨rfl, hR'⟩ := hboth
  rw [ends_tryCatch, ends_of_run hs]
  cases r with
  | error e =>
    simp only [ends_tryCatch, ends_of_run ht]
    exact hf e s' t' hR'
  | ok b =>
    dsimp only
    rw [ends_tryCatch, ends_of_run ht]
    exact .inl ⟨rfl, hR'⟩

theorem ite {c : Prop} [Decidable c] {act₁ act₂ : HostM σ β} {act₁' act₂' : HostM τ β}
    (h : c → Accord loss R act₁ act₁') (h' : ¬c → Accord loss R act₂ act₂') :
    Accord loss R (if c then act₁ else act₂) (if c then act₁' else act₂') := by
  split
  · exact h ‹_›
  · exact h' ‹_›

end Accord

/-- Things that `T` relates, with related hosts. -/
def Both {ω ω' : Type} (T : ω → ω' → Prop) (R : σ → τ → Prop) (p : ω × σ) (q : ω' × τ) : Prop :=
  T p.1 q.1 ∧ R p.2 q.2

namespace Step

/-- A step that cannot tell apart what `T` and `R` relate. -/
abbrev Blind {ω : Type} (T : ω → ω → Prop) (R : σ → σ → Prop) (act : Step ω σ β) : Prop :=
  Agree (Both T R) act act

variable {ω ω' υ υ' : Type} {T : ω → ω' → Prop} {U : υ → υ' → Prop}

theorem agree_self_bind {f : ω → Step ω σ β} {g : ω' → Step ω' τ β}
    (h : ∀ w w', T w w' → Agree (Both T R) (f w) (g w')) :
    Agree (Both T R) (self >>= f) (self >>= g) := by
  rintro ⟨w, s⟩ ⟨w', t⟩ hp
  simpa using h w w' hp.1 (w, s) (w', t) hp

theorem agree_update {f : ω → ω} {g : ω' → ω'} (h : ∀ w w', T w w' → T (f w) (g w')) :
    Agree (Both T R) (update f : Step ω σ Unit) (update g) :=
  fun p q hp => .inl ⟨rfl, h p.1 q.1 hp.1, hp.2⟩

theorem agree_host {act : HostM σ β} {act' : HostM τ β} (h : Agree R act act') :
    Agree (Both T R) (host act) (host act') := by
  intro p q hp
  rw [ends_host]
  apply (h p.2 q.2 hp.2).imp
  intro r s' h'
  rw [ends_host]
  exact h'.imp fun r' t' hr => hr.imp_left fun hr => ⟨hr.1, hp.1, hr.2⟩

theorem agree_check (r : Except Error β) :
    Agree (Both T R) (check r : Step ω σ β) (check r) := .check r

/-- A step of parts that belong together. -/
theorem agree_zoom {part : ω → υ} {put : υ → ω → ω} {part' : ω' → υ'} {put' : υ' → ω' → ω'}
    {act : Step υ σ β} {act' : Step υ' τ β} (hpart : ∀ w w', T w w' → U (part w) (part' w'))
    (hput : ∀ v v' w w', U v v' → T w w' → T (put v w) (put' v' w'))
    (h : Agree (Both U R) act act') :
    Agree (Both T R) (zoom part put act) (zoom part' put' act') := by
  intro p q hp
  rw [ends_zoom]
  apply (h _ (part' q.1, q.2) ⟨hpart _ _ hp.1, hp.2⟩).imp
  intro r s' h'
  rw [ends_zoom]
  exact h'.imp fun r' t' hr => hr.imp_left fun hr => ⟨hr.1, hput _ _ _ _ hr.2.1 hp.1, hr.2.2⟩

theorem agree_attempt {act : Step ω σ Unit} {act' : Step ω' τ Unit}
    (h : Agree (Both T R) act act') : Agree (Both T R) (attempt act) (attempt act') :=
  h.tryCatch fun _ => .pure ()

/-- Failures that are kept as results. -/
theorem agree_outcome {act : Step ω σ Unit} {act' : Step ω' τ Unit}
    (h : Agree (Both T R) act act') :
    Agree (Both T R)
      (tryCatch (do act; pure (.ok ())) fun e => pure (.error e) : Step ω σ (Except Error Unit))
      (tryCatch (do act'; pure (.ok ())) fun e => pure (.error e)) :=
  (h.bind fun _ => .pure _).tryCatch fun _ => .pure _

end Step

end Widgetry
