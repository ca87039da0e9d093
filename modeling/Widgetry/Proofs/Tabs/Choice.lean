import Widgetry.Validate

/-! The machine that a tab row refines: a selection, a pending press and whether anyone listens. -/
namespace Widgetry

/-- What the machine knows of a row. -/
structure Choice where
  selected : Option Nat
  pressed : Option Nat
  listening : Bool
  deriving DecidableEq

/-- What happens to a row, with the answers that the world around it has for it. -/
inductive Signal where
  /-- A selection was set without an error. -/
  | chosen (selected : Option Nat)
  /-- Items were set without an error. -/
  | recounted (count : Nat)
  | heard (on : Bool)
  /-- A pointer went down on an enabled row; the hit test answers `index`. -/
  | down (index : Option Nat)
  /-- A pointer went up on an enabled row; the hit test answers `index`, the indicator `settles` on
  that tab or does not, and the listener accepts it or does not. -/
  | up (index : Option Nat) (settles accepts : Bool)
  | cleared
  /-- Nothing that concerns the selection. -/
  | other
  deriving DecidableEq

namespace Choice

/-- The tab that is tapped: it is released where it was pressed, and the indicator settles. -/
def tap (c : Choice) (index : Option Nat) (settles : Bool) : Option Nat :=
  if c.pressed = index ∧ settles then index else none

def next (c : Choice) : Signal → Choice
  | .chosen selected => { c with selected }
  | .recounted count =>
    { c with
      selected := Validate.inRange count c.selected
      pressed := Validate.inRange count c.pressed }
  | .heard on => { c with listening := on }
  | .down index => if c.pressed.isSome then c else { c with pressed := index }
  | .up index settles accepts =>
    match c.tap index settles with
    | some i => { c with selected := if accepts then some i else c.selected, pressed := none }
    | none => { c with pressed := none }
  | .cleared => ⟨none, none, false⟩
  | .other => c

/-- The listener's calls. -/
def calls (c : Choice) : Signal → List Nat
  | .up index settles _ => if c.listening then (c.tap index settles).toList else []
  | _ => []

def run (c : Choice) (signals : List Signal) : Choice := signals.foldl next c

/-- All calls of the listener, the latest first. -/
def told (c : Choice) : List Signal → List Nat
  | [] => []
  | signal :: signals => (c.next signal).told signals ++ c.calls signal

variable {c : Choice} {index : Option Nat} {settles accepts : Bool}

theorem tap_elsewhere (h : c.pressed ≠ index) : c.tap index settles = none :=
  if_neg fun hi => h hi.1

theorem tap_unpressed (h : c.pressed = none) : c.tap index settles = none := by
  unfold tap
  split
  next hi => rw [← hi.1, h]
  · rfl

theorem next_up_of_tap (h : c.tap index settles = none) :
    c.next (.up index settles accepts) = { c with pressed := none } := by
  rw [next, h]

theorem calls_up_of_tap (h : c.tap index settles = none) :
    c.calls (.up index settles accepts) = [] := by
  rw [calls, h]
  simp

theorem tap_eq_some {i : Nat} :
    c.tap index settles = some i ↔ c.pressed = some i ∧ index = some i ∧ settles := by
  unfold tap
  split
  next hi =>
    obtain ⟨hp, hs⟩ := hi
    constructor
    · intro h
      exact ⟨hp.trans h, h, hs⟩
    · intro h
      exact h.2.1
  next hi =>
    constructor
    · exact nofun
    · rintro ⟨hp, hi', hs⟩
      exact (hi ⟨hp.trans hi'.symm, hs⟩).elim

theorem next_up_pressed {i : Nat} (h : c.pressed = some i) :
    c.next (.up (some i) settles accepts) =
      { c with
        selected := if settles && accepts then some i else c.selected
        pressed := none } := by
  cases settles <;> simp [next, tap, h]

theorem calls_up_pressed {i : Nat} (h : c.pressed = some i) :
    c.calls (.up (some i) settles accepts) = if c.listening ∧ settles then [i] else [] := by
  cases settles <;> simp [calls, tap, h]

variable {signal : Signal}

/-- Who listens hears of a tab when it is tapped, and only then. -/
theorem calls_eq_singleton {i : Nat} :
    c.calls signal = [i] ↔
      c.listening ∧ c.pressed = some i ∧ ∃ accepts, signal = .up (some i) true accepts := by
  constructor
  · intro h
    cases signal with
    | up index settles accepts =>
      rw [calls] at h
      split at h
      next hl =>
        cases ht : c.tap index settles with
        | none => simp [ht] at h
        | some j =>
          obtain rfl : j = i := by simpa [ht] using h
          obtain ⟨hp, rfl, rfl⟩ := tap_eq_some.mp ht
          exact ⟨hl, hp, accepts, rfl⟩
      · simp at h
    | _ => simp [calls] at h
  · rintro ⟨hl, hp, accepts, rfl⟩
    rw [calls_up_pressed hp, if_pos ⟨hl, rfl⟩]

theorem calls_eq_nil_or (c : Choice) (signal : Signal) :
    c.calls signal = [] ∨ ∃ i, c.calls signal = [i] := by
  cases signal with
  | up index settles accepts =>
    rw [calls]
    split
    · cases c.tap index settles with
      | none => exact .inl rfl
      | some i => exact .inr ⟨i, rfl⟩
    · exact .inl rfl
  | _ => exact .inl rfl

/-- The four ways in which a selection changes. -/
theorem next_selected (h : (c.next signal).selected ≠ c.selected) :
    signal = .chosen (c.next signal).selected ∨
      (∃ i, c.pressed = some i ∧ signal = .up (some i) true true ∧
        (c.next signal).selected = some i) ∨
      (∃ count i, signal = .recounted count ∧ c.selected = some i ∧ count ≤ i ∧
        (c.next signal).selected = none) ∨
      signal = .cleared ∧ (c.next signal).selected = none := by
  cases signal with
  | chosen selected => exact .inl rfl
  | recounted count =>
    refine .inr (.inr (.inl ⟨count, ?_⟩))
    cases hc : c.selected with
    | none => simp [next, Validate.inRange, hc] at h
    | some i =>
      have hi : count ≤ i := by
        apply Nat.le_of_not_lt
        intro hlt
        simp [next, Validate.inRange, hc, hlt] at h
      refine ⟨i, rfl, rfl, hi, ?_⟩
      simp [next, Validate.inRange, hc, hi]
  | up index settles accepts =>
    refine .inr (.inl ?_)
    cases ht : c.tap index settles with
    | none => simp [next, ht] at h
    | some i =>
      obtain ⟨hp, rfl, rfl⟩ := tap_eq_some.mp ht
      cases accepts with
      | false => simp [next, ht] at h
      | true => exact ⟨i, hp, rfl, by simp [next, ht]⟩
  | cleared => exact .inr (.inr (.inr ⟨rfl, rfl⟩))
  | heard on => exact (h rfl).elim
  | down index =>
    rw [next] at h
    split at h
    · exact (h rfl).elim
    · exact (h rfl).elim
  | other => exact (h rfl).elim

theorem next_up_not_pressed (c : Choice) (index : Option Nat) (settles accepts : Bool) :
    (c.next (.up index settles accepts)).pressed = none := by
  rw [next]
  split <;> rfl

end Choice

end Widgetry
