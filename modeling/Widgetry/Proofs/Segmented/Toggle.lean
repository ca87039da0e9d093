import Widgetry.Segmented.Group

/-! The machine that a group of segments refines: a selection of either kind, a pending press and
whether anyone listens. -/
namespace Widgetry

namespace Selection

/-- A segment is turned: it becomes the only one selected, or its own flag is turned over. -/
def turned (s : Selection) (index : Nat) : Selection :=
  match s with
  | single _ => single (some index)
  | multi flags => multi (flags.modify index not)

/-- The state that a segment has once it is turned. -/
def turnsOn (s : Selection) (index : Nat) : Bool :=
  match s with
  | single _ => true
  | multi flags => !flags.getD index false

/-- One flag is written. -/
def flagged (s : Selection) (index : Nat) (on : Bool) : Selection :=
  match s with
  | single selected => single selected
  | multi flags => multi (flags.set index on)

/-- There are `count` segments now; flags are not cut. -/
def recounted (s : Selection) (count : Nat) : Selection :=
  match s with
  | single selected => single (Validate.inRange count selected)
  | multi flags => multi flags

end Selection

/-- What the machine knows of a group. -/
structure Toggle where
  selection : Selection
  pressed : Option Nat
  listening : Bool
  deriving DecidableEq

/-- What happens to a group, with the answers that the world around it has for it. Setters are those
that have not failed. -/
inductive SegmentSignal where
  | chosen (selected : Option Nat)
  | flagged (index : Nat) (on : Bool)
  | recounted (count : Nat)
  | reflagged (count : Nat) (flags : List Bool)
  | heard (on : Bool)
  /-- A pointer went down on an enabled group; the hit test answers `index`. -/
  | down (index : Option Nat)
  /-- A pointer went up on an enabled group; the hit test answers `index`, and the listener accepts
  that segment or does not. -/
  | up (index : Option Nat) (accepts : Bool)
  | cleared
  /-- Nothing that concerns the selection. -/
  | other
  deriving DecidableEq

namespace Toggle

/-- The segment that is tapped: it is released where it was pressed. -/
def tap (t : Toggle) (index : Option Nat) : Option Nat := if t.pressed = index then index else none

def next (t : Toggle) : SegmentSignal → Toggle
  | .chosen selected => { t with selection := .single selected }
  | .flagged index on => { t with selection := t.selection.flagged index on }
  | .recounted count =>
    { t with
      selection := t.selection.recounted count
      pressed := Validate.inRange count t.pressed }
  | .reflagged count flags =>
    { t with selection := .multi flags, pressed := Validate.inRange count t.pressed }
  | .heard on => { t with listening := on }
  | .down index => if t.pressed.isSome then t else { t with pressed := index }
  | .up index accepts =>
    match t.tap index with
    | some i =>
      { t with selection := if accepts then t.selection.turned i else t.selection, pressed := none }
    | none => { t with pressed := none }
  | .cleared => ⟨t.selection.cleared, none, false⟩
  | .other => t

/-- The listener's calls. -/
def calls (t : Toggle) : SegmentSignal → List (Nat × Bool)
  | .up index _ =>
    if t.listening then (t.tap index).toList.map fun i => (i, t.selection.turnsOn i) else []
  | _ => []

def run (t : Toggle) (signals : List SegmentSignal) : Toggle := signals.foldl next t

/-- All calls of the listener, the latest first. -/
def told (t : Toggle) : List SegmentSignal → List (Nat × Bool)
  | [] => []
  | signal :: signals => (t.next signal).told signals ++ t.calls signal

variable {t : Toggle} {index : Option Nat} {accepts : Bool} {signal : SegmentSignal}

theorem tap_eq_some {i : Nat} : t.tap index = some i ↔ t.pressed = some i ∧ index = some i := by
  unfold tap
  split
  next h =>
    rw [h]
    exact (and_self_iff).symm
  next h =>
    constructor
    · exact nofun
    · rintro ⟨hp, hi⟩
      exact (h (hp.trans hi.symm)).elim

theorem tap_elsewhere (h : t.pressed ≠ index) : t.tap index = none := if_neg h

theorem tap_unpressed (h : t.pressed = none) : t.tap index = none := by
  unfold tap
  split
  next hi => rw [← hi, h]
  · rfl

theorem next_up_of_tap (h : t.tap index = none) :
    t.next (.up index accepts) = { t with pressed := none } := by
  rw [next, h]

theorem calls_up_of_tap (h : t.tap index = none) : t.calls (.up index accepts) = [] := by
  rw [calls, h]
  exact ite_self _

theorem next_up_pressed {i : Nat} (h : t.pressed = some i) :
    t.next (.up (some i) accepts) =
      { t with
        selection := if accepts then t.selection.turned i else t.selection
        pressed := none } := by
  rw [next, tap_eq_some.mpr ⟨h, rfl⟩]

theorem calls_up_pressed {i : Nat} (h : t.pressed = some i) :
    t.calls (.up (some i) accepts) =
      if t.listening then [(i, t.selection.turnsOn i)] else [] := by
  rw [calls, tap_eq_some.mpr ⟨h, rfl⟩]
  rfl

theorem next_up_not_pressed (t : Toggle) (index : Option Nat) (accepts : Bool) :
    (t.next (.up index accepts)).pressed = none := by
  rw [next]
  split <;> rfl

/-- Who listens hears of a segment and its new state when it is tapped, and only then. -/
theorem calls_eq_singleton {call : Nat × Bool} :
    t.calls signal = [call] ↔
      t.listening ∧ t.pressed = some call.1 ∧ call.2 = t.selection.turnsOn call.1 ∧
        ∃ accepts, signal = .up (some call.1) accepts := by
  constructor
  · intro h
    cases signal with
    | up index accepts =>
      rw [calls] at h
      split at h
      next hl =>
        cases ht : t.tap index with
        | none => simp [ht] at h
        | some i =>
          obtain rfl : (i, t.selection.turnsOn i) = call := by simpa [ht] using h
          obtain ⟨hp, rfl⟩ := tap_eq_some.mp ht
          exact ⟨hl, hp, rfl, accepts, rfl⟩
      · exact nomatch h
    | _ => exact nomatch h
  · rintro ⟨hl, hp, hon, accepts, rfl⟩
    rw [calls_up_pressed hp, if_pos hl, ← hon]

theorem calls_eq_nil_or (t : Toggle) (signal : SegmentSignal) :
    t.calls signal = [] ∨ ∃ call, t.calls signal = [call] := by
  cases signal with
  | up index accepts =>
    rw [calls]
    split
    · cases t.tap index with
      | none => exact .inl rfl
      | some i => exact .inr ⟨_, rfl⟩
    · exact .inl rfl
  | _ => exact .inl rfl

/-- A selection changes when it is set, by an accepted tap, and when everything is given back. -/
theorem next_selection (h : (t.next signal).selection ≠ t.selection) :
    (∃ i, t.pressed = some i ∧ signal = .up (some i) true) ∨ signal = .cleared ∨
      (∃ selected, signal = .chosen selected) ∨ (∃ index on, signal = .flagged index on) ∨
      (∃ count, signal = .recounted count) ∨ ∃ count flags, signal = .reflagged count flags := by
  cases signal with
  | chosen selected => exact .inr (.inr (.inl ⟨selected, rfl⟩))
  | flagged index on => exact .inr (.inr (.inr (.inl ⟨index, on, rfl⟩)))
  | recounted count => exact .inr (.inr (.inr (.inr (.inl ⟨count, rfl⟩))))
  | reflagged count flags => exact .inr (.inr (.inr (.inr (.inr ⟨count, flags, rfl⟩))))
  | cleared => exact .inr (.inl rfl)
  | up index accepts =>
    cases ht : t.tap index with
    | none =>
      rw [next_up_of_tap ht] at h
      exact (h rfl).elim
    | some i =>
      obtain ⟨hp, rfl⟩ := tap_eq_some.mp ht
      cases accepts with
      | false =>
        rw [next_up_pressed hp] at h
        exact (h rfl).elim
      | true => exact .inl ⟨i, hp, rfl⟩
  | down index =>
    rw [next] at h
    split at h
    · exact (h rfl).elim
    · exact (h rfl).elim
  | heard on => exact (h rfl).elim
  | other => exact (h rfl).elim

end Toggle

end Widgetry
