import Mathlib.Data.List.Basic
import Widgetry.Proofs.Host.Ends
import Widgetry.Recorder

/-! What a frame records. The draw calls since its beginning are its commands; the rectangles and
the texts among them keep their order, and the corners of a rectangle stand where its number among
the rectangles says. -/
namespace Widgetry

variable {α β γ τ : Type}

section Slices

variable {f : β → List γ} {n : Nat} {l : List β}

theorem length_flatMap_of_length (hf : ∀ b, (f b).length = n) :
    (l.flatMap f).length = n * l.length := by
  induction l with
  | nil => rfl
  | cons b l ih => rw [List.flatMap_cons, List.length_append, hf, ih, List.length_cons,
      Nat.mul_succ, Nat.add_comm]

/-- Pieces of one length are found by their number. -/
theorem slice_flatMap (hf : ∀ b, (f b).length = n) {i : Nat} {b : β} (hb : l[i]? = some b) :
    ((l.flatMap f).drop (n * i)).take n = f b := by
  induction l generalizing i with
  | nil => exact nomatch hb
  | cons first l ih =>
    rw [List.flatMap_cons]
    cases i with
    | zero =>
      obtain rfl := Option.some.inj hb
      rw [Nat.mul_zero, List.drop_zero, List.take_left' (hf first)]
    | succ i =>
      rw [Nat.mul_succ, Nat.add_comm, ← List.drop_drop, List.drop_left' (hf first)]
      exact ih hb

end Slices

namespace PaintCommand

/-- The draw call that is recorded as the command. -/
def draw [PaintHost α τ] : PaintCommand α → HostM τ Unit
  | rect bounds color cornerRadius => PaintHost.drawRect bounds color cornerRadius
  | text font run x y color => PaintHost.drawText font run x y color

def drawAll [PaintHost α τ] : List (PaintCommand α) → HostM τ Unit
  | [] => pure ()
  | command :: rest => do
    command.draw
    drawAll rest

end PaintCommand

/-- The commands are these rectangles and these texts, each in their order. -/
inductive Merged : List (RectRun α) → List (TextRun α) → List (PaintCommand α) → Prop
  | nil : Merged [] [] []
  | rect {bounds : Rect α} {color : Color α} {cornerRadius : α} {rects : List (RectRun α)}
      {texts : List (TextRun α)} {commands : List (PaintCommand α)}
      (rest : Merged rects texts commands) :
      Merged (⟨bounds, color, cornerRadius⟩ :: rects) texts
        (.rect bounds color cornerRadius :: commands)
  | text {font : FontHandle} {run : String} {x y : α} {color : Color α}
      {rects : List (RectRun α)} {texts : List (TextRun α)} {commands : List (PaintCommand α)}
      (rest : Merged rects texts commands) :
      Merged rects (⟨run, x, y, color⟩ :: texts) (.text font run x y color :: commands)

namespace Recorder

variable {draws : List (PaintCommand α)}

theorem merged (draws : List (PaintCommand α)) :
    Merged (⟨draws⟩ : Recorder α).rects (⟨draws⟩ : Recorder α).texts draws := by
  induction draws with
  | nil => exact .nil
  | cons command rest ih =>
    cases command with
    | rect bounds color cornerRadius => exact .rect ih
    | text font run x y color => exact .text ih

/-- A recorder refuses nothing and adds each call at the end. -/
theorem ends_draw (command : PaintCommand α) {r : Recorder α} :
    Ends command.draw r fun res r' => res = .ok () ∧ r' = r.record command := by
  cases command with
  | rect bounds color cornerRadius => exact ⟨rfl, rfl⟩
  | text font run x y color => exact ⟨rfl, rfl⟩

theorem ends_drawAll (draws : List (PaintCommand α)) {r : Recorder α} :
    Ends (PaintCommand.drawAll draws) r fun res r' =>
      res = .ok () ∧ r' = ⟨r.commands ++ draws⟩ := by
  induction draws generalizing r with
  | nil => exact ⟨rfl, congrArg Recorder.mk (List.append_nil r.commands).symm⟩
  | cons command rest ih =>
    rw [PaintCommand.drawAll, ends_bind]
    apply (ends_draw command).imp
    rintro _ _ ⟨rfl, rfl⟩
    apply ih.imp
    rintro _ _ ⟨rfl, rfl⟩
    exact ⟨rfl, by rw [record, List.append_assoc, List.singleton_append]⟩

/-- A frame is its draw calls. -/
theorem ends_frame (r : Recorder α) (draws : List (PaintCommand α)) :
    Ends (PaintCommand.drawAll draws) r.beginFrame fun res frame =>
      res = .ok () ∧ frame = ⟨draws⟩ := ends_drawAll draws

variable [Scalar α]

theorem length_corners (run : RectRun α) : (corners run).length = 6 := rfl

theorem color_corners {run : RectRun α} {v : Vertex α} (hv : v ∈ corners run) :
    v.color = run.color := by
  simp only [corners, List.mem_cons, List.not_mem_nil, or_false] at hv
  rcases hv with rfl | rfl | rfl | rfl | rfl | rfl <;> rfl

/-- What a frame of these draw calls holds: the texts leave no corners, and those of a rectangle are
found by its number. -/
structure Records (draws : List (PaintCommand α)) (frame : Recorder α) : Prop where
  commands : frame.commands = draws
  merged : Merged frame.rects frame.texts frame.commands
  length : frame.vertices.length = 6 * frame.rects.length
  corners : ∀ (i : Nat) (run : RectRun α), frame.rects[i]? = some run →
    (frame.vertices.drop (6 * i)).take 6 = Recorder.corners run
  colors : ∀ (i : Nat) (run : RectRun α), frame.rects[i]? = some run →
    ∀ v ∈ (frame.vertices.drop (6 * i)).take 6, v.color = run.color

theorem records (draws : List (PaintCommand α)) : Records draws ⟨draws⟩ where
  commands := rfl
  merged := merged draws
  length := length_flatMap_of_length length_corners
  corners _ _ hrun := slice_flatMap length_corners hrun
  colors _ _ hrun v hv := by
    rw [vertices, slice_flatMap length_corners hrun] at hv
    exact color_corners hv

end Recorder

end Widgetry
