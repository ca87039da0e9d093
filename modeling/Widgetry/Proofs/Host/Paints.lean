import Widgetry.Font
import Widgetry.Proofs.Host.Canvas
import Widgetry.Proofs.Host.Outcomes
import Widgetry.Proofs.Host.Yields

/-! What a widget needs of its host when it is painted. Measuring draws nothing, so on a canvas it
is known what has been drawn when the measuring is over; and where the host is willing, it is known
what each call adds. -/
namespace Widgetry

variable {α σ β : Type} {bad : Error → Prop} {inv : σ → Prop} {held : FontHandle → Prop}

namespace Canvas

variable {t t' t'' : Canvas α σ} {commands more : List (PaintCommand α)}

/-- These are drawn, and the host stays in states of `inv`. -/
structure Adds (inv : σ → Prop) (commands : List (PaintCommand α)) (t t' : Canvas α σ) : Prop where
  kept : inv t'.host
  added : t'.commands = t.commands ++ commands

theorem adds_nil (ht : inv t.host) : Adds inv [] t t := ⟨ht, (List.append_nil _).symm⟩

theorem Adds.trans (h : Adds inv commands t t') (h' : Adds inv more t' t'') :
    Adds inv (commands ++ more) t t'' := by
  refine ⟨h'.kept, ?_⟩
  rw [h'.added, h.added, List.append_assoc]

theorem attains_call (note : List (PaintCommand α)) {act : HostM σ β} {P : β → Prop}
    (ha : Yields (fun _ => True) inv P act) (ht : inv t.host) :
    Attains (call note act) t fun _ t' => Adds inv note t t' := by
  refine (ends_call _ _).mpr ((ha t.host ht).imp ?_)
  rintro (e | b) host ⟨hkept, hr⟩
  · exact (hr trivial).elim
  · exact ⟨b, rfl, hkept, rfl⟩

/-- If it has failed, nothing has been drawn. -/
def Untouched (t : Canvas α σ) (r : Except Error β) (t' : Canvas α σ) : Prop :=
  ∀ e, r = .error e → t'.commands = t.commands

/-- What does not fail leaves nothing half done. -/
theorem untouched_of_yields {ω : Type} {act : Step ω (Canvas α σ) β} {P : β → Prop} {w : ω}
    (ha : Yields (fun _ => True) (fun p => inv p.2.host) P act) (ht' : inv t'.host) :
    Ends act (w, t') fun r q => t.Untouched r q.2 :=
  (ha.avoids (s := (w, t')) ht').imp fun _ _ hr e he => (hr e he trivial).elim

theorem yields_host {ω : Type} {act : HostM (Canvas α σ) β} {P : β → Prop}
    (ha : Yields bad (fun t => inv t.host) P act) :
    Yields bad (fun p => inv p.2.host) P (Step.host act : Step ω (Canvas α σ) β) :=
  fun p hp => ha p.2 hp

end Canvas

/-- While the host is in a state of `inv` it stays in such states, and neither measuring and drawing
in a font that is held nor drawing rectangles ends in a `bad` error. -/
structure Paints (bad : Error → Prop) (inv : σ → Prop) (held : FontHandle → Prop) [TextHost α σ]
    [PaintHost α σ] : Prop where
  measureText : ∀ font, held font → ∀ text,
    Yields bad inv (fun _ => True) (TextHost.measureText font text : HostM σ (TextMetrics α))
  drawRect : ∀ (bounds : Rect α) color cornerRadius,
    Yields bad inv (fun _ => True) (PaintHost.drawRect bounds color cornerRadius : HostM σ Unit)
  drawText : ∀ font, held font → ∀ text (x y : α) color,
    Yields bad inv (fun _ => True) (PaintHost.drawText font text x y color : HostM σ Unit)

/-- The host refuses none of it. -/
abbrev Willing (inv : σ → Prop) (held : FontHandle → Prop) [TextHost α σ] [PaintHost α σ] : Prop :=
  Paints (fun _ => True) inv held

variable [TextHost α σ] [PaintHost α σ]

namespace Paints

variable (hp : Paints bad inv held)
include hp

theorem of_held {held' : FontHandle → Prop} (h : ∀ font, held' font → held font) :
    Paints bad inv held' :=
  ⟨fun font hf => hp.measureText font (h font hf), hp.drawRect,
    fun font hf => hp.drawText font (h font hf)⟩

/-- A record refuses nothing itself. -/
theorem canvas : Paints bad (fun t : Canvas α σ => inv t.host) held :=
  ⟨fun font hf text t ht => hp.measureText font hf text t.host ht,
    fun bounds color cornerRadius t ht => hp.drawRect bounds color cornerRadius t.host ht,
    fun font hf text x y color t ht => hp.drawText font hf text x y color t.host ht⟩

/-- Measuring draws nothing. -/
theorem measureText_unseen (commands : List (PaintCommand α)) {font : FontHandle} (hf : held font)
    (text : String) : Yields bad (fun t => inv t.host ∧ t.commands = commands) (fun _ => True)
      (TextHost.measureText font text : HostM (Canvas α σ) (TextMetrics α)) := by
  rintro t ⟨ht, hcommands⟩
  refine (Canvas.ends_call _ _).mpr ((hp.measureText font hf text t.host ht).imp ?_)
  exact fun r host hr => ⟨⟨hr.1, (List.append_nil _).trans hcommands⟩, hr.2⟩

end Paints

namespace Willing

variable (hw : Willing inv held) {t : Canvas α σ} (ht : inv t.host)
include hw ht

theorem attains_measureText {font : FontHandle} (hf : held font) (text : String) :
    Attains (TextHost.measureText font text : HostM (Canvas α σ) (TextMetrics α)) t
      fun _ t' => t.Adds inv [] t' :=
  Canvas.attains_call [] (hw.measureText font hf text) ht

theorem attains_drawRect (bounds : Rect α) (color : Color α) (cornerRadius : α) :
    Attains (PaintHost.drawRect bounds color cornerRadius : HostM (Canvas α σ) Unit) t
      fun _ t' => t.Adds inv [.rect bounds color cornerRadius] t' :=
  Canvas.attains_call _ (hw.drawRect bounds color cornerRadius) ht

theorem attains_drawText {font : FontHandle} (hf : held font) (text : String) (x y : α)
    (color : Color α) :
    Attains (PaintHost.drawText font text x y color : HostM (Canvas α σ) Unit) t
      fun _ t' => t.Adds inv [.text font text x y color] t' :=
  Canvas.attains_call _ (hw.drawText font hf text x y color) ht

end Willing

end Widgetry
