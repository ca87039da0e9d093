import Widgetry.Proofs.Host.Ends
import Widgetry.Recorder

/-! Any host, with a record of all that its painter is asked for. -/
namespace Widgetry

structure Canvas (α σ : Type) where
  host : σ
  /-- What was asked for, drawn or refused. The earliest comes first. -/
  commands : List (PaintCommand α)

namespace Canvas

variable {α σ β : Type} {t : Canvas α σ}

/-- The texts that were asked for, in order. -/
def texts (t : Canvas α σ) : List (TextRun α) := t.commands.filterMap PaintCommand.text?

/-- Runs a call on the host and notes what it asks to draw. -/
def call (note : List (PaintCommand α)) (act : HostM σ β) : HostM (Canvas α σ) β :=
  ExceptT.mk fun t =>
    let (r, host) := act.run t.host
    (r, ⟨host, t.commands ++ note⟩)

@[simp] theorem ends_call (note : List (PaintCommand α)) (act : HostM σ β)
    {post : Except Error β → Canvas α σ → Prop} :
    Ends (call note act) t post ↔ Ends act t.host fun r host => post r ⟨host, t.commands ++ note⟩ :=
  Iff.rfl

instance [TextHost α σ] : TextHost α (Canvas α σ) where
  createFont style := call [] (TextHost.createFont style)
  destroyFont font := call [] (TextHost.destroyFont (α := α) font)
  measureText font text := call [] (TextHost.measureText font text)

instance [PaintHost α σ] : PaintHost α (Canvas α σ) where
  drawRect bounds color cornerRadius :=
    call [.rect bounds color cornerRadius] (PaintHost.drawRect bounds color cornerRadius)
  drawText font text x y color :=
    call [.text font text x y color] (PaintHost.drawText font text x y color)

section Asked

variable [PaintHost α σ]

theorem ends_drawRect (bounds : Rect α) (color : Color α) (cornerRadius : α) :
    Ends (PaintHost.drawRect bounds color cornerRadius : HostM (Canvas α σ) Unit) t fun _ t' =>
      t'.texts = t.texts := by
  refine (ends_call _ _).mpr ((ends_run _ _).imp fun _ host _ => ?_)
  rw [texts, List.filterMap_append]
  exact List.append_nil _

theorem ends_drawText (font : FontHandle) (text : String) (x y : α) (color : Color α) :
    Ends (PaintHost.drawText font text x y color : HostM (Canvas α σ) Unit) t fun _ t' =>
      t'.texts = t.texts ++ [⟨text, x, y, color⟩] := by
  refine (ends_call _ _).mpr ((ends_run _ _).imp fun _ host _ => ?_)
  rw [texts, List.filterMap_append]
  rfl

end Asked

end Canvas

end Widgetry
