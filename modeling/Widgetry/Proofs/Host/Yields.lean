import Widgetry.Proofs.Host.Ends

/-! Errors that a computation does not end in. What it gives on the way to them is told too, since
a check that cannot fail owes that to what was computed before it. -/
namespace Widgetry

variable {σ β γ : Type} {bad : Error → Prop} {inv : σ → Prop} {P : β → Prop} {Q : γ → Prop}

/-- No error of a check is `bad`. -/
def Avoids (bad : Error → Prop) (r : Except Error β) : Prop := ∀ e, r = .error e → ¬bad e

namespace Avoids

theorem ok (b : β) : Avoids bad (.ok b : Except Error β) := nofun

theorem error {e : Error} (he : ¬bad e) : Avoids bad (.error e : Except Error β) := by
  rintro _ ⟨⟩
  exact he

theorem mono {bad' : Error → Prop} {r : Except Error β} (h : Avoids bad' r)
    (hbad : ∀ e, bad e → bad' e) : Avoids bad r := fun e he hb => h e he (hbad e hb)

theorem ite {c : Prop} [Decidable c] {r r' : Except Error β} (h : c → Avoids bad r)
    (h' : ¬c → Avoids bad r') : Avoids bad (if c then r else r') := by
  split
  · exact h ‹_›
  · exact h' ‹_›

theorem bind {r : Except Error β} {f : β → Except Error γ} (h : Avoids bad r)
    (hf : ∀ b, Avoids bad (f b)) : Avoids bad (r >>= f) := by
  cases r with
  | error e => exact .error (h e rfl)
  | ok b => exact hf b

end Avoids

/-- The computation keeps `inv`, ends in no `bad` error, and what it gives is as `P` says. -/
def Yields (bad : Error → Prop) (inv : σ → Prop) (P : β → Prop) (act : HostM σ β) : Prop :=
  ∀ s, inv s → Ends act s fun r s' => inv s' ∧
    match r with
    | .ok b => P b
    | .error e => ¬bad e

/-- Whenever it is run, the computation ends in no `bad` error. -/
abbrev Averts (bad : Error → Prop) (act : HostM σ β) : Prop :=
  Yields bad (fun _ => True) (fun _ => True) act

/-- Whenever it is run, the computation succeeds. -/
abbrev Succeeds (act : HostM σ β) : Prop := Averts (fun _ => True) act

theorem succeeds_of_ends {act : HostM σ β} (h : ∀ s, Ends act s fun r _ => ∃ b, r = .ok b) :
    Succeeds act := by
  intro s _
  apply (h s).imp
  rintro _ _ ⟨b, rfl⟩
  exact ⟨trivial, trivial⟩

theorem ends_of_succeeds {act : HostM σ β} (h : Succeeds act) (s : σ) :
    Ends act s fun r _ => ∃ b, r = .ok b := by
  apply (h s trivial).imp
  rintro (e | b) _ ⟨-, hr⟩
  · exact (hr trivial).elim
  · exact ⟨b, rfl⟩

namespace Avoids

theorem isOk {r : Except Error Unit} (h : Avoids (fun _ => True) r) : r = .ok () := by
  cases r with
  | error e => exact (h e rfl trivial).elim
  | ok => rfl

end Avoids

namespace Yields

variable {act : HostM σ β}

theorem avoids (h : Yields bad inv P act) {s : σ} (hs : inv s) :
    Ends act s fun r _ => Avoids bad r := by
  apply (h s hs).imp
  rintro (e | b) s' ⟨-, hr⟩
  · exact .error hr
  · exact .ok b

theorem keeps (h : Yields bad inv P act) : Keeps inv act :=
  fun s hs => (h s hs).imp fun _ _ hr => hr.1

theorem mono {bad' : Error → Prop} (h : Yields bad inv P act) (hbad : ∀ e, bad' e → bad e) :
    Yields bad' inv P act := by
  intro s hs
  apply (h s hs).imp
  rintro (e | b) s' ⟨hs', hr⟩
  · exact ⟨hs', fun hb => hr (hbad e hb)⟩
  · exact ⟨hs', hr⟩

theorem pure {b : β} (hb : P b) : Yields bad inv P (Pure.pure b : HostM σ β) :=
  fun _ hs => ⟨hs, hb⟩

theorem throw {e : Error} (he : ¬bad e) : Yields bad inv P (throw e : HostM σ β) :=
  fun _ hs => ⟨hs, he⟩

theorem check {r : Except Error β} (h : Avoids bad r) (hg : ∀ b, r = .ok b → P b) :
    Yields bad inv P (liftExcept r : HostM σ β) := by
  cases r with
  | error e => exact throw (h e rfl)
  | ok b => exact pure (hg b rfl)

theorem bind {f : β → HostM σ γ} (h : Yields bad inv P act)
    (hf : ∀ b, P b → Yields bad inv Q (f b)) : Yields bad inv Q (act >>= f) := by
  intro s hs
  exact (h s hs).bind (fun b s' hs' => hf b hs'.2 s' hs'.1) fun _ _ hs' => hs'

theorem bind_avoids {f : β → HostM σ γ} {s : σ} (h : Yields bad inv P act) (hs : inv s)
    (hf : ∀ b s', P b → inv s' → Ends (f b) s' fun r _ => Avoids bad r) :
    Ends (act >>= f) s fun r _ => Avoids bad r :=
  (h s hs).bind (fun b s' hs' => hf b s' hs'.2 hs'.1) fun _ _ hs' => .error hs'.2

theorem check_bind {r : Except Error β} {f : β → HostM σ γ} (h : Avoids bad r)
    (hf : ∀ b, r = .ok b → Yields bad inv Q (f b)) :
    Yields bad inv Q ((liftExcept r : HostM σ β) >>= f) := by
  have hcheck : Yields bad inv (fun b => r = .ok b) (liftExcept r : HostM σ β) :=
    check h fun _ hb => hb
  exact hcheck.bind hf

/-- A check that is known to pass. -/
theorem checked {r : Except Error β} {b : β} {f : β → HostM σ γ} (hr : r = .ok b)
    (hf : Yields bad inv Q (f b)) : Yields bad inv Q ((liftExcept r : HostM σ β) >>= f) := by
  rw [hr]
  exact hf

theorem tryCatch {handler : Error → HostM σ β} (h : Yields bad inv P act)
    (hh : ∀ e, ¬bad e → Yields bad inv P (handler e)) :
    Yields bad inv P (tryCatch act handler) := by
  intro s hs
  exact Ends.tryCatch (h s hs) (fun _ _ hs' => hs') fun e s' hs' => hh e hs'.2 s' hs'.1

theorem ite {c : Prop} [Decidable c] {act' : HostM σ β} (h : c → Yields bad inv P act)
    (h' : ¬c → Yields bad inv P act') : Yields bad inv P (if c then act else act') := by
  split
  · exact h ‹_›
  · exact h' ‹_›

end Yields

namespace Step

variable {ω ω' : Type} {inv : ω × σ → Prop}

theorem yields_self_bind {f : ω → Step ω σ β} (hf : ∀ w h, inv (w, h) → Yields bad inv P (f w)) :
    Yields bad inv P (self >>= f) := by
  rintro ⟨w, h⟩ hi
  simpa using hf w h hi (w, h) hi

theorem yields_update {f : ω → ω} {P : Unit → Prop} (hf : ∀ w h, inv (w, h) → inv (f w, h))
    (hg : P ()) : Yields bad inv P (update f : Step ω σ Unit) :=
  fun p hp => ⟨hf p.1 p.2 hp, hg⟩

/-- A call to the host, and an invariant that does not look at the host. -/
theorem yields_host {I : ω → Prop} {act : HostM σ β}
    (ha : Yields bad (fun _ => True) P act) :
    Yields bad (fun p => I p.1) P (host act : Step ω σ β) := by
  intro p hp
  rw [ends_host]
  exact (ha p.2 trivial).imp fun _ _ hr => ⟨hp, hr.2⟩

theorem yields_zoom {I : ω → Prop} {part : ω → ω'} {put : ω' → ω → ω} {act : Step ω' σ β}
    (hput : ∀ w v, I w → I (put v w)) (ha : Yields bad (fun _ => True) P act) :
    Yields bad (fun p => I p.1) P (zoom part put act) := by
  intro p hp
  rw [ends_zoom]
  exact (ha (part p.1, p.2) trivial).imp fun _ _ hr => ⟨hput _ _ hp, hr.2⟩

theorem succeeds_zoom (part : ω → ω') (put : ω' → ω → ω) {act : Step ω' σ β}
    (ha : Succeeds act) : Succeeds (zoom part put act : Step ω σ β) :=
  yields_zoom (I := fun _ => True) (fun _ _ _ => trivial) ha

end Step

end Widgetry
