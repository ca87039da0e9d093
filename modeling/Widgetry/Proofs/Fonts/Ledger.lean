import Widgetry.Proofs.Host.Measuring
import Widgetry.Proofs.Host.Trace

/-! The fonts of a record of calls, and what it means that someone accounts for them. -/
namespace Widgetry

namespace Ledger

/-- The fonts that were created and not destroyed since. -/
def live : List HostCall → List FontHandle
  | [] => []
  | .created font :: calls => font :: live calls
  | .destroyed font :: calls => (live calls).filter (· ≠ font)
  | _ :: calls => live calls

/-- The live fonts that the host has refused to destroy. -/
def stuck : List HostCall → List FontHandle
  | [] => []
  | .destroyFailed font :: calls => font :: stuck calls
  | .created font :: calls | .destroyed font :: calls => (stuck calls).filter (· ≠ font)
  | _ :: calls => stuck calls

/-- No live handle was issued again. -/
def Fresh : List HostCall → Prop
  | [] => True
  | call :: calls => (∀ font ∈ call.created?, font ∉ live calls) ∧ Fresh calls

instance decidableFresh : (calls : List HostCall) → Decidable (Fresh calls)
  | [] => .isTrue trivial
  | call :: calls =>
    have := decidableFresh calls
    inferInstanceAs (Decidable ((∀ font ∈ call.created?, font ∉ live calls) ∧ _))

/-- Every call was made on a font that was live at that moment. -/
def Sound : List HostCall → Prop
  | [] => True
  | call :: calls => (∀ font ∈ call.font?, font ∈ live calls) ∧ Sound calls

/-- The holders of `held`, each of its own font, account for every live font. -/
structure Balanced (held : List FontHandle) (calls : List HostCall) : Prop where
  sound : Sound calls
  nodup : held.Nodup
  live_iff : ∀ font, font ∈ live calls ↔ font ∈ held ∨ font ∈ stuck calls

/-- A host that issues a live handle again voids every account. -/
def Accounted (held : List FontHandle) (calls : List HostCall) : Prop :=
  Fresh calls → Balanced held calls

variable {font : FontHandle} {held held' : List FontHandle} {calls : List HostCall}

theorem stuck_eq_nil (h : ∀ font, .destroyFailed font ∉ calls) : stuck calls = [] := by
  induction calls with
  | nil => rfl
  | cons call calls ih =>
    have ih := ih fun font hf => h font (List.mem_cons_of_mem _ hf)
    cases call with
    | destroyFailed font => exact (h font List.mem_cons_self).elim
    | created font | destroyed font => simp [stuck, ih]
    | _ => exact ih

namespace Accounted

theorem nil : Accounted [] [] := fun _ => ⟨trivial, .nil, by simp [live, stuck]⟩

theorem perm (h : Accounted held calls) (hp : held.Perm held') : Accounted held' calls := by
  intro hf
  obtain ⟨hs, hn, hl⟩ := h hf
  exact ⟨hs, hp.nodup_iff.mp hn, fun font => by rw [hl, hp.mem_iff]⟩

theorem created (h : Accounted held calls) : Accounted (font :: held) (.created font :: calls) := by
  rintro ⟨hnew, hf⟩
  obtain ⟨hs, hn, hl⟩ := h hf
  have hout : font ∉ held ∧ font ∉ stuck calls := by simpa [hl] using hnew font rfl
  refine ⟨⟨by simp [HostCall.font?], hs⟩, List.nodup_cons.mpr ⟨hout.1, hn⟩, fun other => ?_⟩
  by_cases ho : other = font
  · simp [live, ho]
  · simp [live, stuck, hl, ho]

theorem destroyed (h : Accounted (font :: held) calls) :
    Accounted held (.destroyed font :: calls) := by
  rintro ⟨-, hf⟩
  obtain ⟨hs, hn, hl⟩ := h hf
  obtain ⟨hout, hn⟩ := List.nodup_cons.mp hn
  refine ⟨⟨by simp [HostCall.font?, hl], hs⟩, hn, fun other => ?_⟩
  by_cases ho : other = font
  · simp [live, stuck, ho, hout]
  · simp [live, stuck, hl, ho]

/-- After a refusal the font may be kept. -/
theorem refused (h : Accounted (font :: held) calls) :
    Accounted (font :: held) (.destroyFailed font :: calls) := by
  rintro ⟨-, hf⟩
  obtain ⟨hs, hn, hl⟩ := h hf
  refine ⟨⟨by simp [HostCall.font?, hl], hs⟩, hn, fun other => ?_⟩
  by_cases ho : other = font
  · simp [live, hl, ho]
  · simp [live, stuck, hl, ho]

/-- After a refusal the font may be forgotten. -/
theorem abandoned (h : Accounted (font :: held) calls) :
    Accounted held (.destroyFailed font :: calls) := by
  intro hf
  obtain ⟨hs, hn, hl⟩ := h.refused hf
  refine ⟨hs, (List.nodup_cons.mp hn).2, fun other => ?_⟩
  by_cases ho : other = font
  · simp [live, stuck, ho, (h hf.2).live_iff]
  · simp [hl, ho]

/-- Calls that neither create nor destroy need a font that is held. -/
theorem used {call : HostCall} (h : Accounted held calls) (hc : ∀ font ∈ call.font?, font ∈ held)
    (hl : live (call :: calls) = live calls) (hs : stuck (call :: calls) = stuck calls) :
    Accounted held (call :: calls) := by
  rintro ⟨-, hf⟩
  obtain ⟨hsound, hn, hlive⟩ := h hf
  exact ⟨⟨fun font hm => (hlive font).mpr (.inl (hc font hm)), hsound⟩, hn, by rwa [hl, hs]⟩

end Accounted

end Ledger

open Ledger

variable {α σ β γ : Type} {held others : List FontHandle} {font : FontHandle}

/-- The host's fonts are accounted for by `held`. -/
def Held (held : List FontHandle) (t : Traced σ) : Prop := Accounted held t.calls

/-- The fonts of a thing and the fonts others hold account for all. -/
def Owning {ω : Type} (fonts : ω → List FontHandle) (others : List FontHandle)
    (p : ω × Traced σ) : Prop := Held (fonts p.1 ++ others) p.2

/-- What comes out brings its fonts along; a failure leaves none behind. -/
def Brings (fonts : β → List FontHandle) (act : HostM (Traced σ) β) : Prop :=
  ∀ held t, Held held t → Ends act t fun r t' =>
    match r with
    | .ok b => Held (fonts b ++ held) t'
    | .error _ => Held held t'

namespace Brings

variable {fonts : β → List FontHandle} {act : HostM (Traced σ) β}

theorem of_check {e : Except Error γ} {f : γ → HostM (Traced σ) β} (hf : ∀ c, Brings fonts (f c)) :
    Brings fonts ((liftExcept e : HostM (Traced σ) γ) >>= f) :=
  fun held t h => .of_check (fun c _ => hf c held t h) fun _ _ => h

/-- What is made of it holds the same fonts. -/
theorem map {fonts' : γ → List FontHandle} {f : β → γ} (h : Brings fonts act)
    (hf : ∀ b, fonts' (f b) = fonts b) : Brings fonts' (do return f (← act)) := by
  intro held t ht
  refine (h held t ht).bind (fun b t' ht' => ?_) fun _ _ ht' => ht'
  simpa only [ends_pure, hf] using ht'

end Brings

section Painted

variable [PaintHost α σ]

theorem keeps_drawText (hm : font ∈ held) (text : String) (x y : α) (color : Color α) :
    Keeps (Held held : Traced σ → Prop) (PaintHost.drawText font text x y color) := by
  intro t h
  apply (Traced.ends_call _ _).mpr
  exact (ends_run _ _).imp fun _ _ _ => h.used (by simp [HostCall.font?, hm]) rfl rfl

theorem keeps_drawRect (r : Rect α) (color : Color α) (corner : α) :
    Keeps (Held held : Traced σ → Prop) (PaintHost.drawRect r color corner) := by
  intro t h
  apply (Traced.ends_call _ _).mpr
  exact (ends_run _ _).imp fun _ _ _ => h.used (by simp [HostCall.font?]) rfl rfl

end Painted

variable [TextHost α σ]

theorem brings_createFont (style : TextStyle α) :
    Brings (fun font => [font]) (TextHost.createFont style : HostM (Traced σ) FontHandle) := by
  intro held t h
  apply (Traced.ends_call _ _).mpr
  apply (ends_run _ _).imp
  rintro (e | font) host -
  · exact h
  · exact h.created

theorem ends_destroyFont {t : Traced σ} (h : Held (font :: held) t) :
    Ends (TextHost.destroyFont font) t fun r t' =>
      Held held t' ∧ (r ≠ .ok () → Held (font :: held) t') := by
  apply (Traced.ends_call _ _).mpr
  apply (ends_run _ _).imp
  rintro (e | ⟨⟩) host -
  · exact ⟨h.abandoned, fun _ => h.refused⟩
  · exact ⟨h.destroyed, fun hr => (hr rfl).elim⟩

theorem keeps_measureText (hm : font ∈ held) (text : String) :
    Keeps (Held held : Traced σ → Prop) (TextHost.measureText font text) := by
  intro t h
  apply (Traced.ends_call _ _).mpr
  exact (ends_run _ _).imp fun _ _ _ => h.used (by simp [HostCall.font?, hm]) rfl rfl

namespace OwnedFont

/-- The font held, if any. -/
def toList (font : OwnedFont) : List FontHandle := font.handle?.toList

theorem brings_create (style : TextStyle α) :
    Brings toList (create style : HostM (Traced σ) OwnedFont) :=
  (brings_createFont style).map fun _ => rfl

theorem ends_release {font : OwnedFont} {t : Traced σ} (h : Held (font.toList ++ others) t) :
    Ends (release : Step OwnedFont (Traced σ) Unit) (font, t) fun _ p =>
      p.1 = empty ∧ Held others p.2 := by
  obtain ⟨_ | handle⟩ := font
  · exact ⟨rfl, h⟩
  · simp only [release, ends_bind, Step.ends_self, Step.ends_update, Step.ends_host]
    exact (ends_destroyFont h).imp fun _ _ ht => ⟨trivial, ht.1⟩

theorem keeps_release :
    Keeps (Owning toList others) (release : Step OwnedFont (Traced σ) Unit) := by
  rintro ⟨font, t⟩ h
  apply (ends_release h).imp
  rintro _ ⟨font, t⟩ ⟨rfl, ht⟩
  exact ht

theorem ends_discard {font : OwnedFont} {t : Traced σ} (h : Held (font.toList ++ held) t) :
    Ends font.discard t fun _ t' => Held held t' := by
  obtain ⟨_ | font⟩ := font
  · exact h
  · exact (ends_destroyFont h).tryCatch (fun _ _ ht => ht.1) fun _ _ ht => ht.1

theorem ends_replace {next font : OwnedFont} {t : Traced σ}
    (h : Held (next.toList ++ (font.toList ++ others)) t) :
    Ends (replace next : Step OwnedFont (Traced σ) Unit) (font, t) fun _ p =>
      Owning toList others p := by
  obtain ⟨_ | current⟩ := font
  · exact h
  · have hp : Held (current :: (next.toList ++ others)) t := h.perm List.perm_middle
    simp only [replace, ends_bind, Step.ends_self, ends_tryCatch, Step.ends_host]
    apply (ends_destroyFont hp).imp
    rintro (e | ⟨⟩) t' ⟨hgone, hkept⟩
    · have hk : Held (next.toList ++ (current :: others)) t' :=
        (hkept error_ne_ok).perm List.perm_middle.symm
      apply (ends_discard hk).imp
      rintro (e | ⟨⟩) t'' ht
      · exact ht
      · exact ht
    · exact hgone

theorem measures_held {font : OwnedFont} (h : ∀ handle ∈ font.toList, handle ∈ held) :
    font.Measures α (Held held : Traced σ → Prop) :=
  fun handle hf text => keeps_measureText (h handle (by simp [toList, hf])) text

omit [TextHost α σ] in
theorem draws_held [PaintHost α σ] {font : OwnedFont}
    (h : ∀ handle ∈ font.toList, handle ∈ held) :
    font.Draws α (Held held : Traced σ → Prop) :=
  fun handle hf text x y color =>
    keeps_drawText (h handle (by simp [toList, hf])) text x y color

section Part

variable {ω : Type} {part : ω → OwnedFont} {put : OwnedFont → ω → ω}

theorem keeps_releaseIn (hput : ∀ w, put (part w) w = w)
    (hget : ∀ font w, part (put font w) = font) :
    Keeps (Owning (fun w => (part w).toList) others)
      (Step.zoom part put release : Step ω (Traced σ) Unit) := by
  refine Step.keeps_zoom hput fun w => ?_
  simp only [Owning, hget]
  exact keeps_release

theorem ends_dropIn {w : ω} {t : Traced σ} (h : Held ((part w).toList ++ others) t) :
    Ends (Step.attempt (Step.zoom part put release) : Step ω (Traced σ) Unit) (w, t) fun _ p =>
      Held others p.2 := by
  have hrelease : Ends (Step.zoom part put release : Step ω (Traced σ) Unit) (w, t) fun _ p =>
      Held others p.2 := by
    rw [Step.ends_zoom]
    exact (ends_release h).imp fun _ _ hp => hp.2
  exact hrelease.tryCatch (fun _ _ hp => hp) fun _ _ hp => hp

/-- A font that is brought along is taken over, or the old one stays and nothing follows. -/
theorem keeps_replaceIn (hget : ∀ font w, part (put font w) = font) {brought : β → OwnedFont}
    {load : HostM (Traced σ) β} (hload : Brings (fun b => (brought b).toList) load)
    {f : β → Step ω (Traced σ) Unit}
    (hf : ∀ b, Keeps (Owning (fun w => (part w).toList) others) (f b)) :
    Keeps (Owning (fun w => (part w).toList) others) (do
      let b ← Step.host load
      Step.zoom part put (replace (brought b))
      f b) := by
  rintro ⟨w, t⟩ h
  rw [ends_bind, Step.ends_host]
  apply (hload _ t h).imp
  rintro (e | b) t' ht
  · exact ht
  · have hreplace : Ends (Step.zoom part put (replace (brought b)) : Step ω (Traced σ) Unit) (w, t')
        fun _ p => Owning (fun w => (part w).toList) others p := by
      rw [Step.ends_zoom]
      simp only [Owning, hget]
      exact ends_replace ht
    exact hreplace.bind (fun _ p hp => hf b p hp) fun _ _ hp => hp

end Part

end OwnedFont

end Widgetry
