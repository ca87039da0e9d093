import Widgetry.Host

/-! How a computation on a host ends, and what it keeps. A step of a thing is a computation on the
thing and its host together, so both notions serve both. -/
namespace Widgetry

variable {σ β γ : Type} {act : HostM σ β} {s : σ} {post post' : Except Error β → σ → Prop}

theorem error_ne_ok {e : Error} {b : β} : (.error e : Except Error β) ≠ .ok b := nofun

/-- Run from `s`, the computation ends in `post`. -/
def Ends (act : HostM σ β) (s : σ) (post : Except Error β → σ → Prop) : Prop :=
  post (act.run s).1 (act.run s).2

theorem Ends.imp (h : Ends act s post) (hp : ∀ r s', post r s' → post' r s') :
    Ends act s post' := hp _ _ h

theorem Ends.and (h : Ends act s post) (h' : Ends act s post') :
    Ends act s fun r s' => post r s' ∧ post' r s' := ⟨h, h'⟩

/-- The end that is reached. -/
theorem ends_run (act : HostM σ β) (s : σ) : Ends act s fun r s' => act.run s = (r, s') := rfl

theorem ends_of_run {r : Except Error β} {s' : σ} (h : act.run s = (r, s')) :
    Ends act s post ↔ post r s' := by rw [Ends, h]

theorem run_of_toOption {b : β} (h : (act.run s).1.toOption = some b) :
    act.run s = (.ok b, (act.run s).2) := by
  rcases hrun : act.run s with ⟨e | b', s'⟩
  all_goals rw [hrun] at h
  · exact nomatch h
  · obtain rfl := Option.some.inj h
    rfl

theorem run_unit {act : HostM Unit β} {b : β} (h : (act.run ()).1.toOption = some b) :
    act.run () = (.ok b, ()) := run_of_toOption h

@[simp] theorem ends_pure (b : β) : Ends (pure b : HostM σ β) s post ↔ post (.ok b) s := Iff.rfl

@[simp] theorem ends_throw (e : Error) :
    Ends (throw e : HostM σ β) s post ↔ post (.error e) s := Iff.rfl

@[simp] theorem ends_liftExcept (e : Except Error β) :
    Ends (liftExcept e : HostM σ β) s post ↔ post e s := by
  cases e <;> exact Iff.rfl

@[simp] theorem ends_bind (f : β → HostM σ γ) {post : Except Error γ → σ → Prop} :
    Ends (act >>= f) s post ↔ Ends act s fun r s' =>
      match r with
      | .ok b => Ends (f b) s' post
      | .error e => post (.error e) s' := by
  have hrun : (act >>= f).run s = match act.run s with
      | (.ok b, s') => (f b).run s'
      | (.error e, s') => (.error e, s') := by
    change (ExceptT.bindCont f (act.run s).1) (act.run s).2 = _
    rcases act.run s with ⟨r | r, s'⟩ <;> rfl
  simp only [Ends, hrun]
  rcases act.run s with ⟨r | r, s'⟩ <;> rfl

@[simp] theorem ends_tryCatch (handler : Error → HostM σ β) :
    Ends (tryCatch act handler) s post ↔ Ends act s fun r s' =>
      match r with
      | .ok b => post (.ok b) s'
      | .error e => Ends (handler e) s' post := by
  have hrun : (tryCatch act handler).run s = match act.run s with
      | (.ok b, s') => (.ok b, s')
      | (.error e, s') => (handler e).run s' := by
    simp only [tryCatch, tryCatchThe, MonadExceptOf.tryCatch, ExceptT.tryCatch, ExceptT.run,
      ExceptT.mk, bind, StateT.bind]
    rcases act s with ⟨r | r, s'⟩ <;> rfl
  simp only [Ends, hrun]
  rcases act.run s with ⟨r | r, s'⟩ <;> rfl

@[simp] theorem HostM.ends_zoom {τ : Type} (part : τ → σ) (put : σ → τ → τ) {t : τ}
    {post : Except Error β → τ → Prop} :
    Ends (HostM.zoom part put act) t post ↔ Ends act (part t) fun r s' => post r (put s' t) :=
  Iff.rfl

/-- A failure that is kept as a result. -/
@[simp] theorem ends_outcome {act : HostM σ Unit}
    {post : Except Error (Except Error Unit) → σ → Prop} :
    Ends (tryCatch (do act; pure (.ok ())) fun e => pure (.error e)) s post ↔
      Ends act s fun r s' => post (.ok r) s' := by
  rw [ends_tryCatch, ends_bind]
  constructor
  all_goals
    intro h
    apply h.imp
    rintro (e | ⟨⟩) s' hs'
    · exact hs'
    · exact hs'

theorem Ends.bind {f : β → HostM σ γ} {post' : Except Error γ → σ → Prop} (h : Ends act s post)
    (ho : ∀ b s', post (.ok b) s' → Ends (f b) s' post')
    (he : ∀ e s', post (.error e) s' → post' (.error e) s') : Ends (act >>= f) s post' := by
  rw [ends_bind]
  apply h.imp
  rintro (e | b) s' hs'
  · exact he e s' hs'
  · exact ho b s' hs'

/-- What follows a success that is certain. -/
theorem Ends.bind_ok {f : β → HostM σ γ} {P : β → σ → Prop} {post : Except Error γ → σ → Prop}
    (h : Ends act s fun r s' => ∃ b, r = .ok b ∧ P b s')
    (hf : ∀ b s', P b s' → Ends (f b) s' post) : Ends (act >>= f) s post := by
  refine h.bind ?_ fun e _ ⟨_, he, _⟩ => (error_ne_ok he).elim
  rintro b s' ⟨_, ⟨⟩, hb⟩
  exact hf b s' hb

theorem Ends.of_check {e : Except Error β} {f : β → HostM σ γ}
    {post : Except Error γ → σ → Prop} (ho : ∀ b, e = .ok b → Ends (f b) s post)
    (he : ∀ err, e = .error err → post (.error err) s) :
    Ends ((liftExcept e : HostM σ β) >>= f) s post := by
  cases e with
  | error err => exact he err rfl
  | ok b => exact ho b rfl

theorem Ends.tryCatch {handler : Error → HostM σ β} (h : Ends act s post)
    (ho : ∀ b s', post (.ok b) s' → post' (.ok b) s')
    (he : ∀ e s', post (.error e) s' → Ends (handler e) s' post') :
    Ends (tryCatch act handler) s post' := by
  rw [ends_tryCatch]
  apply h.imp
  rintro (e | b) s' hs'
  · exact he e s' hs'
  · exact ho b s' hs'

/-- What holds before holds after, whether the computation fails or not. -/
def Keeps (inv : σ → Prop) (act : HostM σ β) : Prop := ∀ s, inv s → Ends act s fun _ s' => inv s'

namespace Keeps

variable {inv : σ → Prop}

theorem ends (h : Keeps inv act) (hs : inv s) (hp : ∀ r s', inv s' → post r s') :
    Ends act s post := (h s hs).imp fun r s' => hp r s'

theorem of_true (act : HostM σ β) : Keeps (fun _ => True) act := fun _ _ => trivial

theorem pure (b : β) : Keeps inv (Pure.pure b : HostM σ β) := fun _ h => h

theorem throw (e : Error) : Keeps inv (throw e : HostM σ β) := fun _ h => h

theorem liftExcept (e : Except Error β) : Keeps inv (liftExcept e : HostM σ β) := by
  intro s h
  simpa using h

theorem bind {f : β → HostM σ γ} (h : Keeps inv act) (hf : ∀ b, Keeps inv (f b)) :
    Keeps inv (act >>= f) := by
  intro s hs
  exact (h s hs).bind (fun b s' hs' => hf b s' hs') fun _ _ hs' => hs'

theorem tryCatch {handler : Error → HostM σ β} (h : Keeps inv act)
    (hh : ∀ e, Keeps inv (handler e)) : Keeps inv (tryCatch act handler) := by
  intro s hs
  exact Ends.tryCatch (h s hs) (fun _ _ hs' => hs') fun e s' hs' => hh e s' hs'

theorem ite {c : Prop} [Decidable c] {act' : HostM σ β} (h : c → Keeps inv act)
    (h' : ¬c → Keeps inv act') : Keeps inv (if c then act else act') := by
  split
  · exact h ‹_›
  · exact h' ‹_›

end Keeps

theorem keeps_liftExcept_bind {inv : σ → Prop} {e : Except Error β} {f : β → HostM σ γ}
    (hf : ∀ b, e = .ok b → Keeps inv (f b)) :
    Keeps inv ((liftExcept e : HostM σ β) >>= f) :=
  fun s hs => .of_check (fun b hb => hf b hb s hs) fun _ _ => hs

namespace Step

variable {ω ω' : Type} {p : ω × σ}

@[simp] theorem ends_self {post : Except Error ω → ω × σ → Prop} :
    Ends (self : Step ω σ ω) p post ↔ post (.ok p.1) p := Iff.rfl

@[simp] theorem ends_update (f : ω → ω) {post : Except Error Unit → ω × σ → Prop} :
    Ends (update f : Step ω σ Unit) p post ↔ post (.ok ()) (f p.1, p.2) := Iff.rfl

@[simp] theorem ends_host (act : HostM σ β) {post : Except Error β → ω × σ → Prop} :
    Ends (host act : Step ω σ β) p post ↔ Ends act p.2 fun r h => post r (p.1, h) := Iff.rfl

@[simp] theorem ends_zoom (part : ω → ω') (put : ω' → ω → ω) (act : Step ω' σ β)
    {post : Except Error β → ω × σ → Prop} :
    Ends (zoom part put act) p post ↔
      Ends act (part p.1, p.2) fun r q => post r (put q.1 p.1, q.2) := Iff.rfl

@[simp] theorem ends_check (e : Except Error β) {post : Except Error β → ω × σ → Prop} :
    Ends (check e : Step ω σ β) p post ↔ post e p := ends_liftExcept e

@[simp] theorem ends_construct (first : ω) (act : Step ω σ Unit) {h : σ}
    {post : Except Error ω → σ → Prop} :
    Ends (construct first act) h post ↔
      Ends act (first, h) fun r q => post (r.map fun _ => q.1) q.2 := Iff.rfl

/-- What is attempted cannot fail. -/
@[simp] theorem ends_attempt {act : Step ω σ Unit} {post : Except Error Unit → ω × σ → Prop} :
    Ends (attempt act) p post ↔ Ends act p fun _ q => post (.ok ()) q := by
  rw [attempt, ends_tryCatch]
  constructor
  all_goals
    intro h
    apply h.imp
    rintro (e | ⟨⟩) q hq
    · exact hq
    · exact hq

variable {inv : ω × σ → Prop}

/-- What follows may use that the thing read is the one the invariant speaks of. -/
theorem keeps_self_bind {f : ω → Step ω σ β} (hf : ∀ w h, inv (w, h) → Keeps inv (f w)) :
    Keeps inv (self >>= f) := by
  rintro ⟨w, h⟩ hi
  simpa using hf w h hi (w, h) hi

theorem keeps_update {f : ω → ω} (hf : ∀ w h, inv (w, h) → inv (f w, h)) :
    Keeps inv (update f : Step ω σ Unit) := fun p hp => hf p.1 p.2 hp

theorem keeps_host {act : HostM σ β} (ha : ∀ w, Keeps (fun h => inv (w, h)) act) :
    Keeps inv (host act : Step ω σ β) := fun p hp => ha p.1 p.2 hp

theorem keeps_check (e : Except Error β) : Keeps inv (check e : Step ω σ β) := .liftExcept e

theorem keeps_zoom {part : ω → ω'} {put : ω' → ω → ω} {act : Step ω' σ β}
    (hput : ∀ w, put (part w) w = w) (ha : ∀ w, Keeps (fun q => inv (put q.1 w, q.2)) act) :
    Keeps inv (zoom part put act) := by
  rintro ⟨w, h⟩ hi
  refine ha w (part w, h) ?_
  simpa only [hput] using hi

theorem keeps_attempt {act : Step ω σ Unit} (h : Keeps inv act) : Keeps inv (attempt act) :=
  h.tryCatch fun _ => .pure ()

section At

variable {κ : Type} {part : ω → κ} {k : κ} {hold : σ → Prop}

/-- A part of the thing is as given, and its host is as told. -/
def At (part : ω → κ) (k : κ) (hold : σ → Prop) (p : ω × σ) : Prop := part p.1 = k ∧ hold p.2

theorem keeps_of_at {hold : κ → σ → Prop} {act : Step ω σ β}
    (h : ∀ k, Keeps (At part k (hold k)) act) : Keeps (fun p => hold (part p.1) p.2) act := by
  intro p hp
  apply (h (part p.1)).ends ⟨rfl, hp⟩
  rintro r q ⟨hk, hq⟩
  rwa [hk]

theorem keeps_at_self {f : ω → Step ω σ β} (hf : ∀ w, part w = k → Keeps (At part k hold) (f w)) :
    Keeps (At part k hold) (self >>= f) := keeps_self_bind fun w _ hw => hf w hw.1

theorem keeps_at_update {f : ω → ω} (hf : ∀ w, part (f w) = part w) :
    Keeps (At part k hold) (update f : Step ω σ Unit) :=
  keeps_update fun w _ hw => ⟨(hf w).trans hw.1, hw.2⟩

theorem keeps_at_host {act : HostM σ β} (h : Keeps hold act) :
    Keeps (At part k hold) (host act : Step ω σ β) :=
  keeps_host fun _ t ht => (h t ht.2).imp fun _ _ hi => ⟨ht.1, hi⟩

/-- A step of another part that leaves this one alone. -/
theorem keeps_at_zoom {other : ω → ω'} {put : ω' → ω → ω} {act : Step ω' σ β}
    (hpart : ∀ v w, part (put v w) = part w) (h : Keeps (fun q => hold q.2) act) :
    Keeps (At part k hold) (zoom other put act) := by
  rintro p ⟨hk, hp⟩
  rw [ends_zoom]
  exact (h (other p.1, p.2) hp).imp fun _ _ hq => ⟨(hpart _ _).trans hk, hq⟩

end At

end Step

end Widgetry
