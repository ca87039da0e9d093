import Widgetry.Proofs.Host.Holding
import Widgetry.Proofs.Sharing.Clients

/-! What makes fonts. Both clients get a new one and find a name for it, unless more fonts are made
than there are numbers. -/
namespace Widgetry

variable {α κ χ σ ω β γ : Type}

/-- Both fail alike, or both give what `V` relates. -/
inductive SameEnd (V : β → β → Prop) : Except Error β → Except Error β → Prop
  | ok {b b' : β} (h : V b b') : SameEnd V (.ok b) (.ok b')
  | error (e : Error) : SameEnd V (.error e) (.error e)

theorem SameEnd.eq {β : Type} {r r' : Except Error β} (h : SameEnd Eq r r') : r = r' := by
  cases h with
  | ok h => rw [h]
  | error e => rfl

/-- From related states both computations end alike and in related states, under more names. This
holds unless the first one has made too many fonts. -/
def GrowsIn (made : σ → Nat) (R : Names → σ → σ → Prop) (V : Names → β → β → Prop) (names : Names)
    (act act' : HostM σ β) : Prop :=
  ∀ s t, R names s t → Ends act s fun r s' => Ends act' t fun r' t' => made s' < UInt32.size →
    ∃ more, names ⊆ more ∧ SameEnd (V more) r r' ∧ R more s' t'

/-- The count does not fall. -/
def RisesIn (made : σ → Nat) (act : HostM σ β) : Prop :=
  ∀ count, Keeps (fun s => count ≤ made s) act

section Control

variable {made : σ → Nat} {R : Names → σ → σ → Prop} {V : Names → β → β → Prop}
  {U : Names → γ → γ → Prop} {names : Names} {act act' : HostM σ β}

theorem growsIn_of_agree (h : Agree (R names) act act') :
    GrowsIn made R (fun _ => Eq) names act act' := by
  intro s t hR
  apply (h.ends hR).imp
  intro r s' hends
  apply hends.imp
  rintro _ t' ⟨rfl, hR'⟩ -
  refine ⟨names, List.Subset.refl _, ?_, hR'⟩
  cases r with
  | error e => exact .error e
  | ok b => exact .ok rfl

theorem growsIn_pure {b b' : β} (h : V names b b') :
    GrowsIn made R V names (pure b) (pure b') :=
  fun _ _ hR _ => ⟨names, List.Subset.refl _, .ok h, hR⟩

theorem growsIn_throw (e : Error) : GrowsIn made R V names (throw e) (throw e) :=
  fun _ _ hR _ => ⟨names, List.Subset.refl _, .error e, hR⟩

theorem growsIn_check_bind {e : Except Error γ} {f g : γ → HostM σ β}
    (h : ∀ c, GrowsIn made R V names (f c) (g c)) :
    GrowsIn made R V names ((liftExcept e : HostM σ γ) >>= f) (liftExcept e >>= g) := by
  cases e with
  | error err => exact growsIn_throw err
  | ok c => exact h c

theorem GrowsIn.ends {more : Names} (h : GrowsIn made R V more act act') (hsub : names ⊆ more)
    {s t : σ} (hR : R more s t) :
    Ends act s fun r s' => Ends act' t fun r' t' => made s' < UInt32.size →
      ∃ last, names ⊆ last ∧ SameEnd (V last) r r' ∧ R last s' t' := by
  apply (h s t hR).imp
  intro r s' hends
  apply hends.imp
  intro r' t' hgrown hlt
  obtain ⟨last, hsub', hrest⟩ := hgrown hlt
  exact ⟨last, List.Subset.trans hsub hsub', hrest⟩

/-- After too many fonts nothing is promised. -/
theorem ends_of_spent {s t : σ} {post : Except Error β → σ → Except Error γ → σ → Prop}
    {other : HostM σ γ} (h : Ends act s fun _ s' => UInt32.size ≤ made s') :
    Ends act s fun r s' => Ends other t fun r' t' => made s' < UInt32.size → post r s' r' t' := by
  apply h.imp
  intro r s' hle
  exact (ends_run _ _).imp fun _ _ _ hlt => (Nat.not_lt.mpr hle hlt).elim

/-- The count at the end tells that there were numbers left in between. -/
theorem GrowsIn.bind {f g : β → HostM σ γ} (h : GrowsIn made R V names act act')
    (hr : ∀ b, RisesIn made (f b))
    (hf : ∀ more b b', names ⊆ more → V more b b' → GrowsIn made R U more (f b) (g b')) :
    GrowsIn made R U names (act >>= f) (act' >>= g) := by
  intro s t hR
  have hboth := h s t hR
  rcases hs : act.run s with ⟨r, s'⟩
  rcases ht : act'.run t with ⟨r', t'⟩
  rw [ends_of_run hs, ends_of_run ht] at hboth
  rw [ends_bind, ends_of_run hs]
  by_cases hlt : made s' < UInt32.size
  · obtain ⟨more, hsub, hsame, hR'⟩ := hboth hlt
    cases hsame with
    | error e =>
      dsimp only
      rw [ends_bind, ends_of_run ht]
      exact fun _ => ⟨more, hsub, .error e, hR'⟩
    | ok hV =>
      simp only [ends_bind, ends_of_run ht]
      exact (hf more _ _ hsub hV).ends hsub hR'
  · cases r with
    | error e => exact (ends_run _ _).imp fun _ _ _ hlt' => (hlt hlt').elim
    | ok b => exact ends_of_spent (hr b UInt32.size s' (Nat.le_of_not_lt hlt))

theorem GrowsIn.tryCatch {f g : Error → HostM σ β} (h : GrowsIn made R V names act act')
    (hr : ∀ e, RisesIn made (f e))
    (hf : ∀ more e, names ⊆ more → GrowsIn made R V more (f e) (g e)) :
    GrowsIn made R V names (tryCatch act f) (tryCatch act' g) := by
  intro s t hR
  have hboth := h s t hR
  rcases hs : act.run s with ⟨r, s'⟩
  rcases ht : act'.run t with ⟨r', t'⟩
  rw [ends_of_run hs, ends_of_run ht] at hboth
  rw [ends_tryCatch, ends_of_run hs]
  by_cases hlt : made s' < UInt32.size
  · obtain ⟨more, hsub, hsame, hR'⟩ := hboth hlt
    cases hsame with
    | error e =>
      simp only [ends_tryCatch, ends_of_run ht]
      exact (hf more e hsub).ends hsub hR'
    | ok hV =>
      dsimp only
      rw [ends_tryCatch, ends_of_run ht]
      exact fun _ => ⟨more, hsub, .ok hV, hR'⟩
  · cases r with
    | error e => exact ends_of_spent (hr e UInt32.size s' (Nat.le_of_not_lt hlt))
    | ok b => exact (ends_run _ _).imp fun _ _ _ hlt' => (hlt hlt').elim

end Control

section Parallel

variable {start : Foundry α} {kept : UInt32 → Prop} {names more : Names}

theorem Names.Link.mono (hsub : names ⊆ more) {font font' : FontHandle}
    (h : names.Link font font') : more.Link font font' := ⟨hsub h.1, h.2⟩

theorem PaintCommand.Renamed.mono (hsub : names ⊆ more) {command command' : PaintCommand α}
    (h : command.Renamed names command') : command.Renamed more command' := by
  cases h with
  | rect bounds color corner => exact .rect bounds color corner
  | text link text x y color => exact .text (link.mono hsub) text x y color

theorem Desk.Alike.mono (hsub : names ⊆ more) {d d' : Desk α κ} (h : d.Alike names d') :
    d.Alike more d' where
  painted := h.painted.imp fun _ _ hc => hc.mono hsub
  taps := h.taps
  own := h.own

/-- Two clients, one of them of a shared backend. -/
abbrev Client.Grows (start : Foundry α) (kept : UInt32 → Prop) (V : Names → β → β → Prop)
    (names : Names) (act act' : HostM (Client α κ) β) : Prop :=
  GrowsIn (fun s => s.foundry.made) (Client.Parallel start kept) V names act act'

/-- Two things that `T` relates, with such clients. -/
abbrev Step.Grows (start : Foundry α) (kept : UInt32 → Prop) (T : Names → ω → ω → Prop)
    (V : Names → β → β → Prop) (names : Names) (act act' : Step ω (Client α κ) β) : Prop :=
  GrowsIn (fun p => p.2.foundry.made)
    (fun names => Both (T names) (Client.Parallel start kept names)) V names act act'

abbrev Client.Rises (act : HostM (Client α κ) β) : Prop := RisesIn (fun s => s.foundry.made) act

abbrev Step.Rises (act : Step ω (Client α κ) β) : Prop := RisesIn (fun p => p.2.foundry.made) act

end Parallel

section Steps

variable {start : Foundry α} {kept : UInt32 → Prop} {names : Names}
  {T : Names → ω → ω → Prop} {V : Names → β → β → Prop}

theorem Step.grows_host {act act' : HostM (Client α κ) β}
    (hT : ∀ names more w w', names ⊆ more → T names w w' → T more w w')
    (h : Client.Grows start kept V names act act') :
    Step.Grows start kept T V names (Step.host act) (Step.host act') := by
  rintro ⟨w, s⟩ ⟨w', t⟩ ⟨hw, hs⟩
  rw [ends_host]
  apply (h s t hs).imp
  intro r s' hends
  rw [ends_host]
  apply hends.imp
  intro r' t' hgrown hlt
  obtain ⟨more, hsub, hsame, hs'⟩ := hgrown hlt
  exact ⟨more, hsub, hsame, hT names more w w' hsub hw, hs'⟩

theorem Step.grows_self_bind {f : ω → Step ω (Client α κ) β}
    (h : ∀ w w', T names w w' → Step.Grows start kept T V names (f w) (f w')) :
    Step.Grows start kept T V names (Step.self >>= f) (Step.self >>= f) := by
  rintro ⟨w, s⟩ ⟨w', t⟩ hp
  simpa using h w w' hp.1 (w, s) (w', t) hp

/-- Things that come out of their first step as `T` relates them. -/
theorem grows_construct {first first' : ω} {act act' : Step ω (Client α κ) Unit}
    (hfirst : T names first first')
    (h : Step.Grows start kept T (fun _ => Eq) names act act') :
    Client.Grows start kept T names (Step.construct first act) (Step.construct first' act') := by
  intro s t hs
  rw [Step.ends_construct]
  apply (h (first, s) (first', t) ⟨hfirst, hs⟩).imp
  intro r p hends
  rw [Step.ends_construct]
  apply hends.imp
  intro r' q hgrown hlt
  obtain ⟨more, hsub, hsame, hw, hs'⟩ := hgrown hlt
  refine ⟨more, hsub, ?_, hs'⟩
  cases hsame with
  | error e => exact .error e
  | ok _ => exact .ok hw

theorem rises_host {act : HostM (Client α κ) β} (h : Client.Rises act) :
    Step.Rises (Step.host act : Step ω (Client α κ) β) := fun count p hp => h count p.2 hp

end Steps

/-- The step cannot tell whether its thing is one of many. The count of fonts does not fall, and the
thing stays one that `T` can relate. -/
structure Step.Isolated (T : (FontHandle → FontHandle → Prop) → ω → ω → Prop)
    (act : Step ω (Client α κ) β) : Prop where
  rises : ∀ count, Keeps (fun p => T Eq p.1 p.1 ∧ count ≤ p.2.foundry.made) act
  grows : ∀ start kept names,
    Step.Grows start kept (fun names => T (Names.Link names)) (fun _ => Eq) names act act

/-- The same of the making of a thing. -/
structure Client.Isolated (T : (FontHandle → FontHandle → Prop) → ω → ω → Prop)
    (act : HostM (Client α κ) ω) : Prop where
  rises : ∀ count (s : Client α κ), count ≤ s.foundry.made → Ends act s fun r s' =>
    count ≤ s'.foundry.made ∧ ∀ w, r = .ok w → T Eq w w
  grows : ∀ start kept names,
    Client.Grows start kept (fun names => T (Names.Link names)) names act act

section Isolated

variable {T : (FontHandle → FontHandle → Prop) → ω → ω → Prop}

theorem Step.isolated_of_rises {act : Step ω (Client α κ) β} (hT : ∀ w, T Eq w w)
    (h : Step.Rises act)
    (hg : ∀ start kept names,
      Step.Grows start kept (fun names => T (Names.Link names)) (fun _ => Eq) names act act) :
    Step.Isolated T act :=
  ⟨fun count p hp => (h count p hp.2).imp fun _ q hq => ⟨hT q.1, hq⟩, hg⟩

theorem Client.isolated_of_rises {act : HostM (Client α κ) ω} (hT : ∀ w, T Eq w w)
    (h : Client.Rises act)
    (hg : ∀ start kept names,
      Client.Grows start kept (fun names => T (Names.Link names)) names act act) :
    Client.Isolated T act :=
  ⟨fun count s hs => (h count s hs).imp fun _ _ hs' => ⟨hs', fun w _ => hT w⟩, hg⟩

theorem Step.isolated_check_bind {e : Except Error γ} {f : γ → Step ω (Client α κ) β}
    (h : ∀ c, Step.Isolated T (f c)) : Step.Isolated T (Step.check e >>= f) where
  rises count := (Step.keeps_check e).bind fun c => (h c).rises count
  grows start kept names := growsIn_check_bind fun c => (h c).grows start kept names

/-- What makes no font leaves the count alone. -/
theorem Step.ends_still {act : Step ω (Client α κ) β} {w : ω} {s : Client α κ} {count : Nat}
    (h : ∀ made, Step.Blind (T Eq) (Client.Still made) act) (hw : T Eq w w)
    (hs : count ≤ s.foundry.made) :
    Ends act (w, s) fun _ p => T Eq p.1 p.1 ∧ count ≤ p.2.foundry.made := by
  apply ((h s.foundry.made).ends_self (s := (w, s)) ⟨hw, rfl, rfl⟩).imp
  intro r p hp
  exact ⟨hp.1, Nat.le_trans hs (Nat.le_of_eq hp.2.2.symm)⟩

theorem Step.isolated_of_blind [Scalar α] [PaintHost α κ] [Channel α κ χ]
    {act : Step ω (Client α κ) β}
    (h : ∀ F R, Concurs (Private χ) Client.hearTab Client.hearSegment F R →
      Step.Blind (T F) R act) : Step.Isolated T act where
  rises _ _ hp := Step.ends_still (fun _ => h Eq _ Client.concurs_still) hp.1 hp.2
  grows _ _ _ := growsIn_of_agree (h _ _ Client.concurs_parallel)

/-- A thing that comes out of its first step. -/
theorem ends_construct_still {act : Step ω (Client α κ) Unit} {first : ω} {s : Client α κ}
    {count : Nat} (h : ∀ made, Step.Blind (T Eq) (Client.Still made) act)
    (hfirst : T Eq first first) (hs : count ≤ s.foundry.made) :
    Ends (Step.construct first act) s fun r s' =>
      count ≤ s'.foundry.made ∧ ∀ w, r = .ok w → T Eq w w := by
  rw [Step.ends_construct]
  apply (Step.ends_still h hfirst hs).imp
  rintro (e | _) p ⟨hp, hle⟩
  · exact ⟨hle, fun w hw => (error_ne_ok hw).elim⟩
  · refine ⟨hle, fun w hw => ?_⟩
    obtain rfl := Except.ok.inj hw
    exact hp

end Isolated

end Widgetry
