import Widgetry.Font
import Widgetry.Proofs.Host.Echoes

/-! Hosts that refuse nothing about text and measure a label in a font alike at any time. What they
draw, and what listeners answer, is left open. -/
namespace Widgetry

variable {α σ β γ : Type} [Scalar α]

/-- Whatever state the host is in, it makes the fonts of valid styles, destroys any font, and
measures as `metrics` says. -/
structure Unfailing (metrics : FontHandle → String → TextMetrics α) (σ : Type) [TextHost α σ] :
    Prop where
  createFont : ∀ (style : TextStyle α) (h : σ), style.validate true = .ok () →
    Ends (TextHost.createFont style) h fun r _ => ∃ font, r = .ok font
  destroyFont : ∀ (font : FontHandle) (h : σ),
    Ends (TextHost.destroyFont (α := α) font) h fun r _ => r = .ok ()
  measureText : ∀ (font : FontHandle) (text : String),
    Echoes False (TextHost.measureText font text : HostM σ _) (pure (metrics font text))

/-- In a font that is held, and with labels that measure as `metrics` says, this gives `b`. -/
def Gives (metrics : FontHandle → String → TextMetrics α) (font : OwnedFont)
    (still : Measurer α Unit → HostM Unit β) (b : β) : Prop :=
  ∃ handle, font.handle? = some handle ∧
    (still fun text => pure (metrics handle text)).run () = (.ok b, ())

omit [Scalar α] in
theorem Gives.unique {metrics : FontHandle → String → TextMetrics α} {font : OwnedFont}
    {still : Measurer α Unit → HostM Unit β} {b b' : β} (h : Gives metrics font still b)
    (h' : Gives metrics font still b') : b = b' := by
  obtain ⟨handle, hf, hrun⟩ := h
  obtain ⟨handle', hf', hrun'⟩ := h'
  obtain rfl := Option.some.inj (hf.symm.trans hf')
  exact Except.ok.inj (congrArg Prod.fst (hrun.symm.trans hrun'))

namespace Unfailing

variable [TextHost α σ] {metrics : FontHandle → String → TextMetrics α} {font : OwnedFont} {h : σ}

/-- What is measured in a held font, and nothing that touches the thing that holds it. -/
theorem ends_measured {ω : Type} (hu : Unfailing metrics σ) {w : ω} {act : Measurer α σ → HostM σ β}
    {still : Measurer α Unit → HostM Unit β}
    (hact : ∀ {measurer : Measurer α σ} {metrics : String → TextMetrics α},
      (∀ text, Echoes False (measurer text) (pure (metrics text))) →
        Echoes False (act measurer) (still fun text => pure (metrics text))) :
    Ends (do let measurer ← Step.check font.measurer; Step.host (act measurer) : Step ω σ β) (w, h)
      fun r p => p.1 = w ∧ ∀ b, r = .ok b ↔ Gives metrics font still b := by
  refine .of_check (fun measurer hm => ?_) fun e he => ?_
  · obtain ⟨handle, hf, rfl⟩ := OwnedFont.measurer_eq_ok.mp hm
    rw [Step.ends_host]
    apply (hact (hu.measureText handle) h).imp
    rintro r _ (rfl | hloss)
    · refine ⟨rfl, fun b => ⟨fun hr => ⟨handle, hf, Prod.ext hr rfl⟩, ?_⟩⟩
      rintro ⟨handle', hf', hrun⟩
      obtain rfl := Option.some.inj (hf.symm.trans hf')
      exact congrArg Prod.fst hrun
    · exact hloss.1.elim
  · refine ⟨rfl, fun b => ⟨fun hr => (error_ne_ok hr).elim, ?_⟩⟩
    rintro ⟨handle, hf, -⟩
    exact (error_ne_ok (he.symm.trans (OwnedFont.measurer_eq_ok.mpr ⟨handle, hf, rfl⟩))).elim

theorem ends_measured_bind {ω : Type} (hu : Unfailing metrics σ) {w : ω}
    {act : Measurer α σ → HostM σ β} (still : Measurer α Unit → HostM Unit β) {f : β → Step ω σ γ}
    {post : Except Error γ → ω × σ → Prop}
    (hact : ∀ {measurer : Measurer α σ} {metrics : String → TextMetrics α},
      (∀ text, Echoes False (measurer text) (pure (metrics text))) →
        Echoes False (act measurer) (still fun text => pure (metrics text)))
    (ok : ∀ b h', Gives metrics font still b → Ends (f b) (w, h') post)
    (error : ∀ e h', (∀ b, ¬Gives metrics font still b) → post (.error e) (w, h')) :
    Ends (do let measurer ← Step.check font.measurer; f (← Step.host (act measurer)) : Step ω σ γ)
      (w, h) post := by
  rw [← bind_assoc]
  refine (hu.ends_measured hact).bind ?_ ?_
  · rintro b ⟨_, h'⟩ ⟨rfl, hb⟩
    exact ok b h' ((hb b).mp rfl)
  · rintro e ⟨_, h'⟩ ⟨rfl, he⟩
    exact error e h' fun b hb => error_ne_ok ((he b).mpr hb)

theorem ends_replace (hu : Unfailing metrics σ) (next : OwnedFont) :
    Ends (OwnedFont.replace next) (font, h) fun r p => r = .ok () ∧ p.1 = next := by
  rw [OwnedFont.replace, ends_bind, Step.ends_self]
  obtain ⟨_ | current⟩ := font
  · exact ⟨rfl, rfl⟩
  · dsimp only
    rw [ends_bind, ends_tryCatch, Step.ends_host]
    apply (hu.destroyFont current h).imp
    rintro _ h' rfl
    exact ⟨rfl, rfl⟩

end Unfailing

/-- A host whose refusals about text are not heard: a font it does not make is an arbitrary one, and
a label measures as `metrics` says. -/
structure Granted (metrics : FontHandle → String → TextMetrics α) (σ : Type) where
  host : σ

namespace Granted

variable {metrics : FontHandle → String → TextMetrics α}

/-- Runs a call on the host; if it fails, the answer is `b`. -/
def grant (b : β) (act : HostM σ β) : HostM (Granted metrics σ) β :=
  HostM.zoom host (fun host _ => ⟨host⟩) (tryCatch act fun _ => pure b)

instance [TextHost α σ] : TextHost α (Granted metrics σ) where
  createFont style := grant default (TextHost.createFont style)
  destroyFont font := grant () (TextHost.destroyFont (α := α) font)
  measureText font text := do
    let _ ← grant .zero (TextHost.measureText font text)
    return metrics font text

instance [PaintHost α σ] : PaintHost α (Granted metrics σ) where
  drawRect r color corner :=
    HostM.zoom host (fun host _ => ⟨host⟩) (PaintHost.drawRect r color corner)
  drawText font text x y color :=
    HostM.zoom host (fun host _ => ⟨host⟩) (PaintHost.drawText font text x y color)

omit [Scalar α] in
theorem ends_grant (b : β) (act : HostM σ β) (h : Granted metrics σ) :
    Ends (grant b act) h fun r _ => ∃ b', r = .ok b' := by
  rw [grant, HostM.ends_zoom, ends_tryCatch]
  apply (ends_run _ _).imp
  rintro (e | b') s -
  · exact ⟨b, rfl⟩
  · exact ⟨b', rfl⟩

theorem unfailing [TextHost α σ] : Unfailing metrics (Granted metrics σ) where
  createFont style h _ := ends_grant default _ h
  destroyFont font h := by
    apply (ends_grant () (TextHost.destroyFont font) h).imp
    rintro _ _ ⟨⟨⟩, rfl⟩
    rfl
  measureText font text h := by
    refine (ends_grant .zero (TextHost.measureText font text) h).bind (fun _ _ _ => ?_) ?_
    · exact .inl rfl
    · rintro e _ ⟨_, hr⟩
      exact (error_ne_ok hr).elim

end Granted

end Widgetry
