import Mathlib.Data.List.Chain
import Mathlib.Data.List.Induction
import Widgetry.Input

/-! A press that is pending. A widget that is pressed was pressed by a pointer that went down, and
has taken no release since; so it is not pressed where each pointer goes up before the next one goes
down, and the widget takes each release. -/
namespace Widgetry

inductive Touch where
  | down
  | up
  deriving DecidableEq

def InputEvent.touch? : InputEvent → Option Touch
  | .pointerDown _ => some .down
  | .pointerUp _ => some .up
  | _ => none

/-- The operations `ω` of a widget in the states `π`, as far as its press goes. -/
structure Pressable (π ω : Type) where
  Inv : π → Prop
  after : π → ω → π
  pressed : π → Option Nat
  touch? : ω → Option Touch
  /-- The pointer goes down, and the press is recorded. -/
  Presses : π → ω → Prop
  /-- The pointer goes up, and the widget takes it. -/
  Releases : π → ω → Prop
  inv_after : ∀ {p op}, Inv p → Inv (after p op)
  down_of_presses : ∀ {p op}, Presses p op → touch? op = some .down
  presses : ∀ {p op}, Inv p → pressed p = none → pressed (after p op) ≠ none → Presses p op
  released : ∀ {p op}, Inv p → Releases p op → pressed (after p op) = none

namespace Pressable

variable {π ω : Type} (m : Pressable π ω) {p : π} {op : ω} {ops ops' : List ω}

def run (p : π) (ops : List ω) : π := ops.foldl m.after p

/-- Each operation of a run meets `q` in the state it is done in. -/
def Each (q : π → ω → Prop) (p : π) : List ω → Prop
  | [] => True
  | op :: ops => q p op ∧ Each q (m.after p op) ops

/-- A press was recorded, and the widget has taken no release since. -/
def Held (p : π) (ops : List ω) : Prop :=
  ∃ before press rest, ops = before ++ press :: rest ∧ m.Presses (m.run p before) press ∧
    m.Each (fun p op => ¬m.Releases p op) (m.after (m.run p before) press) rest

/-- No pointer goes down, or up, twice in a row. -/
def Alternates (ops : List ω) : Prop := (ops.filterMap m.touch?).IsChain (· ≠ ·)

/-- The widget takes each release of a run. -/
def TakesReleases (p : π) (ops : List ω) : Prop :=
  m.Each (fun p op => m.touch? op = some .up → m.Releases p op) p ops

/-- At the end of a run the pointer goes down with `op` while a press is held. A host whose pointers
alternate, and whose releases are all taken, does not come here. -/
def Doubles (p : π) (ops : List ω) (op : ω) : Prop :=
  m.Held p ops ∧ ¬(m.Alternates (ops ++ [op]) ∧ m.TakesReleases p ops)

variable {m} {q q' : π → ω → Prop}

theorem run_append : m.run p (ops ++ ops') = m.run (m.run p ops) ops' := List.foldl_append

theorem each_append : m.Each q p (ops ++ ops') ↔ m.Each q p ops ∧ m.Each q (m.run p ops) ops' := by
  induction ops generalizing p with
  | nil => exact (iff_of_eq (true_and _)).symm
  | cons op ops ih =>
    rw [List.cons_append, Each, Each, ih, and_assoc]
    rfl

theorem inv_run (hp : m.Inv p) (ops : List ω) : m.Inv (m.run p ops) := by
  induction ops generalizing p with
  | nil => exact hp
  | cons op ops ih => exact ih (m.inv_after hp)

theorem forall_of_each {r : ω → Prop} (h : m.Each q p ops) (h' : m.Each q' p ops)
    (hr : ∀ {p op}, q p op → q' p op → r op) : ∀ op ∈ ops, r op := by
  induction ops generalizing p with
  | nil => exact nofun
  | cons op ops ih =>
    rintro op' (_ | ⟨_, hmem⟩)
    · exact hr h.1 h'.1
    · exact ih h.2 h'.2 op' hmem

/-- By induction on the run: its last operation pressed, or did not release what was held. -/
theorem held_of_pressed (hp : m.Inv p) (hstart : m.pressed p = none)
    (h : m.pressed (m.run p ops) ≠ none) : m.Held p ops := by
  induction ops using List.reverseRecOn with
  | nil => exact (h hstart).elim
  | append_singleton ops last ih =>
    rw [run_append] at h
    by_cases hbefore : m.pressed (m.run p ops) = none
    · exact ⟨ops, last, [], rfl, m.presses (inv_run hp ops) hbefore h, trivial⟩
    · obtain ⟨before, press, rest, rfl, hpress, hrest⟩ := ih hbefore
      refine ⟨before, press, rest ++ [last], by simp, hpress, each_append.mpr ⟨hrest, ?_, trivial⟩⟩
      intro hrelease
      rw [run_append] at h
      exact h (m.released (inv_run (m.inv_after (inv_run hp before)) rest) hrelease)

/-- Between two pointers that go down, one goes up. -/
theorem exists_up_of_alternates {before rest : List ω} {first second : ω}
    (hfirst : m.touch? first = some .down) (hsecond : m.touch? second = some .down)
    (h : m.Alternates (before ++ first :: (rest ++ [second]))) :
    ∃ op ∈ rest, m.touch? op = some .up := by
  rw [Alternates, List.filterMap_append, List.filterMap_cons_some hfirst, List.filterMap_append,
    List.filterMap_cons_some hsecond] at h
  have hchain := h.right_of_append
  cases htouches : rest.filterMap m.touch? with
  | nil =>
    rw [htouches] at hchain
    exact ((List.isChain_cons_cons.mp hchain).1 rfl).elim
  | cons touch touches =>
    rw [htouches, List.cons_append] at hchain
    have hne : touch ≠ .down := ((List.isChain_cons_cons.mp hchain).1 ·.symm)
    have hmem : touch ∈ rest.filterMap m.touch? := by rw [htouches]; exact List.mem_cons_self
    obtain ⟨op, hop, htouch⟩ := List.mem_filterMap.mp hmem
    cases touch with
    | down => exact (hne rfl).elim
    | up => exact ⟨op, hop, htouch⟩

theorem doubles_of_pressed (hp : m.Inv p) (hstart : m.pressed p = none)
    (hdown : m.touch? op = some .down) (h : m.pressed (m.run p ops) ≠ none) :
    m.Doubles p ops op := by
  have hheld := held_of_pressed hp hstart h
  refine ⟨hheld, fun ⟨halt, htaken⟩ => ?_⟩
  obtain ⟨before, press, rest, rfl, hpress, hrest⟩ := hheld
  have hnoup : ∀ op ∈ rest, m.touch? op ≠ some .up :=
    forall_of_each hrest (each_append.mp htaken).2.2 fun hkept htaken hup => hkept (htaken hup)
  rw [List.append_assoc, List.cons_append] at halt
  obtain ⟨up, hmem, hup⟩ := exists_up_of_alternates (m.down_of_presses hpress) hdown halt
  exact hnoup up hmem hup

end Pressable

end Widgetry
