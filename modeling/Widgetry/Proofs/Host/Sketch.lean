import Widgetry.Recorder
import Widgetry.Tabs.Row
import Widgetry.Proofs.Host.Unfailing

/-! Any host, with a record of the rectangles its painter was asked for. -/
namespace Widgetry

/-- A rectangle that was asked for, and whether it was drawn. -/
structure Stroke (α : Type) where
  run : RectRun α
  drawn : Bool

/-- The painter is asked for rectangles in turn, up to the first one that it refuses. -/
inductive Asked {α : Type} : List (RectRun α) → List (Stroke α) → Prop
  | nil : Asked [] []
  | refused {run : RectRun α} {runs : List (RectRun α)} : Asked (run :: runs) [⟨run, false⟩]
  | drawn {run : RectRun α} {runs : List (RectRun α)} {strokes : List (Stroke α)}
      (rest : Asked runs strokes) : Asked (run :: runs) (⟨run, true⟩ :: strokes)

/-- What comes first has been drawn. -/
theorem Asked.append {α : Type} {more : List (RectRun α)} {strokes : List (Stroke α)}
    (h : Asked more strokes) (runs : List (RectRun α)) :
    Asked (runs ++ more) (runs.map (⟨·, true⟩) ++ strokes) := by
  induction runs with
  | nil => exact h
  | cons run runs ih => exact .drawn ih

structure Sketched (α σ : Type) where
  host : σ
  /-- The earliest comes first. -/
  strokes : List (Stroke α)

namespace Sketched

variable {α σ β : Type}

/-- Runs a call that asks for no rectangle. -/
def lift (act : HostM σ β) : HostM (Sketched α σ) β :=
  HostM.zoom host (fun host t => { t with host }) act

instance [TextHost α σ] : TextHost α (Sketched α σ) where
  createFont style := lift (TextHost.createFont style)
  destroyFont font := lift (TextHost.destroyFont (α := α) font)
  measureText font text := lift (TextHost.measureText font text)

instance [PaintHost α σ] : PaintHost α (Sketched α σ) where
  drawRect r color corner := ExceptT.mk fun t =>
    let (res, host) := (PaintHost.drawRect r color corner).run t.host
    (res, ⟨host, t.strokes ++ [⟨⟨r, color, corner⟩, res.isOk⟩]⟩)
  drawText font text x y color := lift (PaintHost.drawText font text x y color)

def hear (listener : TabListener σ) : TabListener (Sketched α σ) :=
  fun index => lift (listener index)

variable {strokes : List (Stroke α)} {t : Sketched α σ}

theorem keeps_lift (act : HostM σ β) :
    Keeps (fun t : Sketched α σ => t.strokes = strokes) (lift act) := fun _ h => h

/-- The computation asks for these rectangles. If it succeeds, all of them have been drawn. -/
def AsksFor (runs : List (RectRun α)) (act : HostM (Sketched α σ) Unit) : Prop :=
  ∀ t, Ends act t fun r t' => ∃ strokes, t'.strokes = t.strokes ++ strokes ∧
    match r with
    | .ok () => strokes = runs.map (⟨·, true⟩)
    | .error _ => ∀ more, Asked (runs ++ more) strokes

theorem asksFor_pure : AsksFor [] (pure () : HostM (Sketched α σ) Unit) :=
  fun t => ⟨[], (List.append_nil t.strokes).symm, rfl⟩

theorem asksFor_drawRect [PaintHost α σ] (run : RectRun α) :
    AsksFor [run] (PaintHost.drawRect run.bounds run.color run.cornerRadius :
      HostM (Sketched α σ) Unit) := by
  intro t
  have hends : Ends (PaintHost.drawRect run.bounds run.color run.cornerRadius) t fun r t' =>
      t'.strokes = t.strokes ++ [⟨run, r.isOk⟩] := rfl
  apply hends.imp
  rintro (e | ⟨⟩) t' ht'
  · exact ⟨_, ht', fun more => .refused⟩
  · exact ⟨_, ht', rfl⟩

variable [Scalar α] [TextHost α σ] {metrics : FontHandle → String → TextMetrics α}

theorem unfailing (hu : Unfailing metrics σ) : Unfailing metrics (Sketched α σ) where
  createFont style t hs := hu.createFont style t.host hs
  destroyFont font t := hu.destroyFont font t.host
  measureText font text t := hu.measureText font text t.host

end Sketched

end Widgetry
