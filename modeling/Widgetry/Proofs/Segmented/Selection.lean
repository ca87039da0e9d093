import Widgetry.Proofs.Host.Trace
import Widgetry.Proofs.Segmented.Range
import Widgetry.Proofs.Segmented.Toggle

/-! What the operations of a group make of its selection and its press. A tap writes the selection
first; when the listener rejects it, the group is as it was. -/
namespace Widgetry

/-- With one flag for each of its segments, a selection turns as told. -/
theorem Selection.tapped_eq {s : Selection} {count index : Nat} (hs : s.Ranged count)
    (hi : index < count) : s.tapped index = .ok (s.turned index, s.turnsOn index) := by
  cases s with
  | single selected => rfl
  | multi flags =>
    have hlt : index < flags.length := by rwa [(hs : flags.length = count)]
    have hflag := List.getElem?_eq_getElem hlt
    rw [tapped, hflag, turned, turnsOn, List.getD_eq_getElem?_getD, hflag,
      List.modify_eq_set, hflag]
    rfl

namespace SegmentGroup

variable {α σ : Type}

/-- A group on a host that keeps a record. -/
abbrev Play (α σ : Type) := SegmentGroup α (Traced σ) × Traced σ

/-- The listener, if there is one, is one that is recorded. -/
def Heard (onSelect : Option (SegmentListener (Traced σ))) : Prop :=
  ∃ listener : Option (SegmentListener σ), onSelect = listener.map Traced.hearSegment

/-- The listener was told of these taps. -/
def Told (taps : List (Nat × Bool)) (t : Traced σ) : Prop := t.segmentTaps = taps

variable {taps : List (Nat × Bool)} {p q : Play α σ}

section Setters

/-! A setter that fails leaves the group as it was. -/

theorem ends_setSelectedIndex (selected : Option Nat) (p : Play α σ) :
    Ends (setSelectedIndex selected) p fun r q => q.2 = p.2 ∧
      q.1 = if r.isOk then { p.1 with selection := .single selected } else p.1 := by
  rw [setSelectedIndex, ends_bind, Step.ends_self]
  dsimp only
  split
  · exact .of_check (fun _ _ => ⟨rfl, rfl⟩) fun _ _ => ⟨rfl, rfl⟩
  · exact ⟨rfl, rfl⟩

theorem ends_setSelectedState (index : Nat) (on : Bool) (p : Play α σ) :
    Ends (setSelectedState index on) p fun r q => q.2 = p.2 ∧
      q.1 = if r.isOk then { p.1 with selection := p.1.selection.flagged index on } else p.1 := by
  rw [setSelectedState, ends_bind, Step.ends_self]
  dsimp only
  split
  next flags hflags =>
    split
    · exact ⟨rfl, rfl⟩
    · rw [hflags]
      exact .of_check (fun _ _ => ⟨rfl, rfl⟩) fun _ _ => ⟨rfl, rfl⟩
  · exact ⟨rfl, rfl⟩

theorem ends_setItems (items : List String) (p : Play α σ) :
    Ends (setItems items) p fun r q => q.2 = p.2 ∧
      q.1 = if r.isOk then
          { p.1 with
            items
            selection := p.1.selection.recounted items.length
            pressed := Validate.inRange items.length p.1.pressed }
        else p.1 := by
  rw [setItems, ends_bind, Step.ends_self]
  dsimp only
  split
  next flags hflags =>
    rw [hflags]
    exact .of_check (fun _ _ => ⟨rfl, rfl⟩) fun _ _ => ⟨rfl, rfl⟩
  next selected hselected =>
    rw [hselected]
    exact ⟨rfl, rfl⟩

theorem ends_setItemsWithStates (items : List String) (flags : List Bool) (p : Play α σ) :
    Ends (setItemsWithStates items flags) p fun r q => q.2 = p.2 ∧
      q.1 = if r.isOk then
          { p.1 with
            items
            selection := .multi flags
            pressed := Validate.inRange items.length p.1.pressed }
        else p.1 := by
  rw [setItemsWithStates, ends_bind, Step.ends_self]
  dsimp only
  split
  · exact ⟨rfl, rfl⟩
  · exact .of_check (fun _ _ => ⟨rfl, rfl⟩) fun _ _ => ⟨rfl, rfl⟩

end Setters

/-- What the listener, if there is one, answers about a segment that is turned. -/
def accepts (index : Nat) (p : Play α σ) : Bool :=
  match p.1.onSelect with
  | some listener => ((listener index (p.1.selection.turnsOn index)).run p.2).1.isOk
  | none => true

/-- The listener is asked once; if it rejects the tap, the group is as it was. -/
theorem ends_commit {index : Nat} (hg : p.1.InRange) (hi : index < p.1.items.length)
    (hl : Heard p.1.onSelect) :
    Ends (commit index) p fun r q => r.isOk = accepts index p ∧
      q.1 = (if r.isOk then { p.1 with selection := p.1.selection.turned index } else p.1) ∧
      q.2.segmentTaps =
        (if p.1.onSelect.isSome then [(index, p.1.selection.turnsOn index)] else []) ++
          p.2.segmentTaps := by
  obtain ⟨⟨_, items, selection, _, _, _, _, onSelect⟩, t⟩ := p
  obtain ⟨listener, rfl⟩ := hl
  rw [commit, ends_bind, Step.ends_self]
  dsimp only
  have htapped := Selection.tapped_eq hg.selection hi
  have huntapped := Selection.untapped_eq htapped
  rw [htapped]
  refine .of_check ?_ fun _ herr => nomatch herr
  rintro _ ⟨⟩
  rw [ends_bind, Step.ends_update]
  cases listener with
  | none => exact ⟨rfl, rfl, rfl⟩
  | some listener =>
    dsimp only [Option.map_some]
    rw [ends_tryCatch, Step.ends_host]
    apply (Traced.ends_call _ _).mpr
    apply (ends_run _ _).imp
    intro r host hrun
    have hr : ((Traced.hearSegment listener index (selection.turnsOn index)).run t).1 = r :=
      congrArg Prod.fst hrun
    rw [accepts]
    dsimp only
    rw [hr]
    cases r with
    | ok b => exact ⟨rfl, rfl, rfl⟩
    | error e =>
      refine ⟨rfl, ?_, rfl⟩
      exact congrArg (SegmentGroup.mk _ _ · _ _ _ _ _) huntapped

section Hosted

variable [TextHost α σ]

theorem told_createFont (style : TextStyle α) :
    Keeps (Told taps : Traced σ → Prop) (TextHost.createFont style) :=
  Traced.keeps_call fun _ _ r h => by cases r <;> exact h

theorem told_destroyFont (font : FontHandle) :
    Keeps (Told taps : Traced σ → Prop) (TextHost.destroyFont font) :=
  Traced.keeps_call fun _ _ r h => by cases r <;> exact h

theorem measures_told (font : OwnedFont) : font.Measures α (Told taps : Traced σ → Prop) :=
  fun _ _ _ => Traced.keeps_call fun _ _ _ h => h

variable [Scalar α]

theorem ends_hit_still (point : Point) (p : Play α σ) :
    Ends (hit point) p fun _ q => q.1 = p.1 ∧ q.2.segmentTaps = p.2.segmentTaps :=
  keeps_hit (measures_told p.1.font) point p ⟨rfl, rfl⟩

/-- A press is taken where the pointer went down, unless another one is pending. -/
theorem ends_onPointerDown {point : Point} {index : Option Nat}
    (hhit : (hit point).run p = (.ok index, q)) :
    Ends (onPointerDown point) p fun _ q =>
      q.1 = { p.1 with pressed := if p.1.pressed.isSome then p.1.pressed else index } ∧
        q.2.segmentTaps = p.2.segmentTaps := by
  have hstill := ends_hit_still point p
  rw [ends_of_run hhit] at hstill
  obtain ⟨hsame, htaps⟩ := hstill
  rw [onPointerDown, ends_bind, ends_of_run hhit]
  dsimp only
  rw [ends_bind, Step.ends_self, ← hsame]
  dsimp only
  split
  · exact ⟨rfl, htaps⟩
  next hnone =>
    cases index with
    | none =>
      rw [Option.not_isSome_iff_eq_none] at hnone
      refine ⟨?_, htaps⟩
      change q.1 = { q.1 with pressed := none }
      rw [← hnone]
    | some index => exact ⟨rfl, htaps⟩

end Hosted

end SegmentGroup

end Widgetry
