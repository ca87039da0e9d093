import Widgetry.Font
import Widgetry.Proofs.Host.Ends

/-! Holding a font asks its host for nothing but to make fonts and to destroy them. -/
namespace Widgetry.OwnedFont

variable {α σ : Type} [TextHost α σ] {inv : σ → Prop}

theorem host_keeps_create {style : TextStyle α} (hc : Keeps inv (TextHost.createFont style)) :
    Keeps inv (create style : HostM σ OwnedFont) := hc.bind fun _ => .pure _

variable (hd : ∀ font, Keeps inv (TextHost.destroyFont font))
include hd

theorem host_keeps_discard (font : OwnedFont) : Keeps inv (font.discard : HostM σ Unit) := by
  unfold discard
  split
  · exact (hd _).tryCatch fun _ => .pure _
  · exact .pure _

theorem host_keeps_replace (next : OwnedFont) :
    Keeps (fun q => inv q.2) (replace next : Step OwnedFont σ Unit) := by
  have hupdate : Keeps (fun q => inv q.2) (Step.update fun _ => next : Step OwnedFont σ Unit) :=
    Step.keeps_update fun _ _ h => h
  refine Step.keeps_self_bind fun font _ _ => ?_
  obtain ⟨_ | current⟩ := font
  · exact hupdate
  · refine Keeps.bind ?_ fun _ => hupdate
    refine (Step.keeps_host fun _ => hd current).tryCatch fun e => ?_
    exact (Step.keeps_host fun _ => host_keeps_discard hd next).bind fun _ => .throw e

theorem host_keeps_release : Keeps (fun q => inv q.2) (release : Step OwnedFont σ Unit) := by
  refine Step.keeps_self_bind fun font _ _ => ?_
  refine Keeps.bind (Step.keeps_update fun _ _ h => h) fun _ => ?_
  obtain ⟨_ | handle⟩ := font
  · exact .pure _
  · exact Step.keeps_host fun _ => hd handle

end Widgetry.OwnedFont
