import Widgetry.Proofs.Host.Scripted
import Widgetry.Proofs.Operations
import Widgetry.Proofs.Tabs.Choice
import Widgetry.Proofs.Tabs.Selection

/-! A tab row refines the machine of `Choice`, over every run and whatever its host, its channels
and its listener refuse. -/
namespace Widgetry

open Step (At)

namespace TabRow

variable {α σ χ : Type}

def choice (row : TabRow α σ χ) : Choice := ⟨row.selected, row.pressed, row.onSelect.isSome⟩

/-- The listener, if there is one, is one that is recorded. -/
def Heard (onSelect : Option (TabListener (Traced σ))) : Prop :=
  ∃ listener : Option (TabListener σ), onSelect = listener.map Traced.hearTab

/-- The row has done what the machine does. -/
structure Follows (p : Play α σ χ) (signal : Signal) (q : Play α σ χ) : Prop where
  choice : q.1.choice = p.1.choice.next signal
  calls : q.2.tabTaps = p.1.choice.calls signal ++ p.2.tabTaps
  heard : Heard q.1.onSelect

/-- The listener stays and hears of nothing. -/
theorem Follows.quiet {p q : Play α σ χ} {signal : Signal} {selected pressed : Option Nat}
    (hl : Heard p.1.onSelect) (hpick : q.1.pick = (selected, pressed, p.1.onSelect))
    (htaps : q.2.tabTaps = p.2.tabTaps)
    (hnext : p.1.choice.next signal = ⟨selected, pressed, p.1.onSelect.isSome⟩)
    (hcalls : p.1.choice.calls signal = []) : Follows p signal q := by
  simp only [pick, Prod.mk.injEq] at hpick
  obtain ⟨hs, hp, hq⟩ := hpick
  refine ⟨?_, ?_, ?_⟩
  · rw [hnext, TabRow.choice, hs, hp, hq]
  · rw [hcalls, htaps, List.nil_append]
  · rwa [hq]

theorem Follows.of_still {p q : Play α σ χ} (h : Still p.1 p.2.tabTaps q)
    (hl : Heard p.1.onSelect) : Follows p .other q := .quiet hl h.1 h.2 rfl rfl

variable {row : TabRow α (Traced σ) (Silent χ)} [TextHost α σ] [Channel α σ χ] [Scalar α]

/-- After a release nothing is pressed, and at most the tab that was tapped is selected. -/
theorem ends_onPointerUp {point : Point} {layout : TabLayout α} {index : Option Nat} {t : Traced σ}
    {q : Play α σ χ} (hhit : (hit point).run (row, t) = (.ok (layout, index), q))
    {listener : Option (TabListener σ)} (hl : row.onSelect = listener.map Traced.hearTab) :
    let signal := Signal.up index (index.any (settles layout · q)) (index.any (accepts layout · q))
    Ends (onPointerUp point) (row, t) fun _ p =>
      p.1.choice = row.choice.next signal ∧ p.1.onSelect = row.onSelect ∧
        p.2.tabTaps = row.choice.calls signal ++ t.tabTaps := by
  intro signal
  have hstill := still_hit point (row, t) ⟨rfl, rfl⟩
  rw [ends_of_run hhit] at hstill
  obtain ⟨hpick, htaps⟩ := hstill
  obtain ⟨hs, hp, hq⟩ := of_pick hpick
  have hchoice : row.choice = q.1.choice := by rw [choice, choice, hs, hp, hq]
  have hrow : row.onSelect = q.1.onSelect := hq.symm
  have hquiet (htap : q.1.choice.tap index (index.any (settles layout · q)) = none) :
      ({ q.1 with pressed := none } : TabRow α (Traced σ) (Silent χ)).choice =
          q.1.choice.next signal ∧ q.2.tabTaps = q.1.choice.calls signal ++ q.2.tabTaps := by
    rw [Choice.next_up_of_tap htap, Choice.calls_up_of_tap htap]
    exact ⟨rfl, rfl⟩
  rw [onPointerUp, ends_bind, ends_of_run hhit, hchoice, hrow, ← htaps]
  dsimp only
  rw [ends_bind, Step.ends_self]
  dsimp only
  cases hpressed : q.1.pressed with
  | none =>
    obtain ⟨hnext, hcalls⟩ := hquiet (Choice.tap_unpressed hpressed)
    rw [← hpressed] at hnext
    exact ⟨hnext, rfl, hcalls⟩
  | some pressed =>
    dsimp only
    by_cases hi : index = some pressed
    · subst hi
      rw [if_pos rfl, ends_bind, ends_tryCatch]
      rw [Choice.next_up_pressed hpressed, Choice.calls_up_pressed hpressed]
      apply (ends_commit pressed layout (hq.trans hl)).imp
      rintro r p ⟨hp', hr, ht⟩
      simp only [pick, Prod.mk.injEq] at hp'
      obtain ⟨hsel, -, hlis⟩ := hp'
      rw [hr] at hsel
      have hreleased : ({ p.1 with pressed := none } : TabRow α (Traced σ) (Silent χ)).choice =
          ⟨if settles layout pressed q && accepts layout pressed q then some pressed
            else q.1.selected, none, q.1.onSelect.isSome⟩ := by
        rw [choice, hlis, hsel]
      rcases r with e | ⟨⟩
      · exact ⟨hreleased, hlis, ht⟩
      · exact ⟨hreleased, hlis, ht⟩
    · rw [if_neg hi]
      obtain ⟨hnext, hcalls⟩ := hquiet (Choice.tap_elsewhere fun h => hi (h.symm.trans hpressed))
      exact ⟨hnext, rfl, hcalls⟩

/-- What an operation is to the machine, with the answers that the hit test, the indicator and the
listener have for it. -/
def signal (op : TabOp α σ) (p : Play α σ χ) : Signal :=
  match op with
  | .setSelected selected =>
    if ((setSelected selected).run p).1.isOk then .chosen selected else .other
  | .setItems items => if ((setItems items).run p).1.isOk then .recounted items.length else .other
  | .setOnSelect listener => .heard listener.isSome
  | .event (.pointerDown point) =>
    if p.1.flags.has WidgetFlags.disabled then .other
    else
      match (hit point).run p with
      | (.ok (_, index), _) => .down index
      | (.error _, _) => .other
  | .event (.pointerUp point) =>
    if p.1.flags.has WidgetFlags.disabled then .other
    else
      match (hit point).run p with
      | (.ok (layout, index), q) =>
        .up index (index.any (settles layout · q)) (index.any (accepts layout · q))
      | (.error _, _) => .other
  | .destroy => .cleared
  | _ => .other

theorem follows_event (event : InputEvent) {p : Play α σ χ} (hl : Heard p.1.onSelect) :
    Ends (handleEvent event) p fun _ q => Follows p (signal (.event event) p) q := by
  have hsame : Follows p .other p := .of_still ⟨rfl, rfl⟩ hl
  by_cases hd : p.1.flags.has WidgetFlags.disabled
  · have hnone : signal (.event event) p = .other := by
      cases event <;> simp [signal, hd]
    rw [hnone]
    exact (ends_handleEvent_disabled hd).mpr hsame
  rw [ends_handleEvent hd]
  cases event with
  | scroll point dx dy =>
    have hscroll : Keeps (Still p.1 p.2.tabTaps) (onScroll dx) :=
      still_of_core fun c => keeps_onScroll (calls_told c.font) dx
    exact (hscroll p ⟨rfl, rfl⟩).imp fun _ q hq => .of_still hq hl
  | pointerDown point =>
    simp only [signal, hd]
    rcases hhit : (hit point).run p with ⟨e | ⟨layout, index⟩, q⟩
    · have hstill := still_hit point p ⟨rfl, rfl⟩
      rw [ends_of_run hhit] at hstill
      dsimp only
      rw [onPointerDown, ends_bind, ends_of_run hhit]
      exact .of_still hstill hl
    · apply (ends_onPointerDown hhit).imp
      rintro _ q' ⟨hpick, htaps⟩
      refine .quiet hl hpick htaps ?_ rfl
      cases hpressed : p.1.pressed with
      | none => simp [Choice.next, choice, hpressed]
      | some pressed => simp [Choice.next, choice, hpressed]
  | pointerUp point =>
    simp only [signal, hd]
    rcases hhit : (hit point).run p with ⟨e | ⟨layout, index⟩, q⟩
    · have hstill := still_hit point p ⟨rfl, rfl⟩
      rw [ends_of_run hhit] at hstill
      dsimp only
      rw [onPointerUp, ends_bind, ends_of_run hhit]
      exact .of_still hstill hl
    · obtain ⟨listener, hlisten⟩ := hl
      apply (ends_onPointerUp hhit hlisten).imp
      rintro _ q' ⟨hc, hq, htaps⟩
      exact ⟨hc, htaps, listener, hq.trans hlisten⟩
  | pointerMove _ => exact hsame
  | keyDown _ => exact hsame
  | keyUp _ => exact hsame

variable {p q : Play α σ χ} {op : TabOp α σ}

theorem Follows.told_at_most_once (h : Follows p (signal op p) q) :
    q.2.tabTaps = p.2.tabTaps ∨ ∃ index, q.2.tabTaps = index :: p.2.tabTaps := by
  rw [h.calls]
  rcases p.1.choice.calls_eq_nil_or (signal op p) with hnil | ⟨index, hone⟩
  · left
    rw [hnil, List.nil_append]
  · right
    exact ⟨index, by rw [hone, List.singleton_append]⟩

theorem Follows.released {point : Point} (h : Follows p (signal (.event (.pointerUp point)) p) q)
    (hd : ¬p.1.flags.has WidgetFlags.disabled) (hhit : ((hit point).run p).1.isOk) :
    q.1.pressed = none := by
  have hpressed : q.1.pressed = (p.1.choice.next (signal (.event (.pointerUp point)) p)).pressed :=
    congrArg Choice.pressed h.choice
  rw [hpressed, signal, if_neg hd]
  rcases hrun : (hit point).run p with ⟨e | found, q⟩
  · rw [hrun] at hhit
    exact nomatch hhit
  · exact Choice.next_up_not_pressed _ _ _ _

section Run

variable [PaintHost α σ]

theorem follows_run (op : TabOp α σ) {p : Play α σ χ} (hl : Heard p.1.onSelect) :
    Ends (op.run Traced.hearTab) p fun _ q => Follows p (signal op p) q := by
  have hquiet : ∀ {act : Step (TabRow α (Traced σ) (Silent χ)) (Traced σ) Unit},
      Keeps (Still p.1 p.2.tabTaps) act → Ends act p fun _ q => Follows p .other q :=
    fun hkeeps => (hkeeps p ⟨rfl, rfl⟩).imp fun _ _ hq => .of_still hq hl
  cases op with
  | setItems items =>
    have hspec : Ends (setItems items) p _ := ends_setItems items
    change Ends (setItems items) p _
    rcases hrun : (setItems items).run p with ⟨e | ⟨⟩, q⟩
    all_goals
      rw [ends_of_run hrun] at hspec ⊢
      simp only [signal, hrun]
      exact .quiet hl hspec.1 hspec.2 rfl rfl
  | setStyle style =>
    refine hquiet ((Step.keeps_check _).bind fun _ => ?_)
    refine Keeps.bind (Step.keeps_at_host
      (OwnedFont.host_keeps_create (told_createFont _))) fun font => ?_
    refine Keeps.bind (Step.keeps_at_zoom (fun _ _ => rfl)
      (OwnedFont.host_keeps_replace told_destroyFont font)) fun _ => ?_
    exact Step.keeps_at_update fun _ => rfl
  | setSelected selected =>
    have hspec : Ends (setSelected selected) p _ := ends_setSelected selected
    change Ends (setSelected selected) p _
    rcases hrun : (setSelected selected).run p with ⟨e | ⟨⟩, q⟩
    all_goals
      rw [ends_of_run hrun] at hspec ⊢
      simp only [signal, hrun]
      exact .quiet hl hspec.1 hspec.2 rfl rfl
  | setScroll offset =>
    exact hquiet (still_of_core fun c => keeps_setScroll (calls_told c.font) offset)
  | setOnSelect listener =>
    refine ⟨?_, rfl, listener, rfl⟩
    cases listener <;> rfl
  | setFlags flags => exact hquiet (Step.keeps_at_update fun _ => rfl)
  | setDisabled on => exact hquiet (Step.keeps_at_update fun _ => rfl)
  | step dt =>
    exact hquiet (keeps_ignore (still_of_core fun c => keeps_step (calls_told c.font) dt))
  | measure width height =>
    exact hquiet (keeps_ignore (still_of_core fun c => keeps_measure (calls_told c.font) _ _))
  | layout bounds =>
    exact hquiet (still_of_core fun c => keeps_layout (calls_told c.font) bounds)
  | paint =>
    exact hquiet (still_of_core fun c => keeps_paint (calls_told c.font)
      (fun _ _ _ _ h => h) fun _ _ _ _ _ _ _ h => h)
  | event e =>
    exact ends_ignore.mpr (follows_event e hl)
  | destroy =>
    have hrelease : Keeps (fun q : Play α σ χ => Told p.2.tabTaps q.2) (onFont OwnedFont.release) :=
      Step.keeps_zoom (fun _ => rfl) fun _ => OwnedFont.host_keeps_release told_destroyFont
    change Ends destroy p _
    rw [ends_destroy]
    exact (hrelease p rfl).imp fun _ _ htaps => ⟨rfl, htaps, none, rfl⟩

def after (p : Play α σ χ) (op : TabOp α σ) : Play α σ χ := ((op.run Traced.hearTab).run p).2

def afterAll (p : Play α σ χ) (ops : List (TabOp α σ)) : Play α σ χ := ops.foldl after p

def signals (p : Play α σ χ) : List (TabOp α σ) → List Signal
  | [] => []
  | op :: ops => signal op p :: signals (after p op) ops

theorem refines_afterAll (ops : List (TabOp α σ)) {p : Play α σ χ} (hl : Heard p.1.onSelect) :
    (afterAll p ops).1.choice = p.1.choice.run (signals p ops) ∧
      (afterAll p ops).2.tabTaps = p.1.choice.told (signals p ops) ++ p.2.tabTaps ∧
      Heard (afterAll p ops).1.onSelect := by
  induction ops generalizing p with
  | nil => exact ⟨rfl, rfl, hl⟩
  | cons op ops ih =>
    obtain ⟨hchoice, hcalls, hheard⟩ : Follows p (signal op p) (after p op) := follows_run op hl
    obtain ⟨hc, ht, hh⟩ := ih hheard
    refine ⟨?_, ?_, hh⟩
    · rw [hchoice] at hc
      exact hc
    · rw [hchoice, hcalls, ← List.append_assoc] at ht
      exact ht

/-- An operation that taps tab `index`: on an enabled row the pointer goes up over the tab that is
pressed, and the indicator settles on it. The listener, if there is one, accepts it or not. -/
inductive Tap (p : Play α σ χ) : TabOp α σ → (index : Nat) → (accepted : Bool) → Prop
  | intro {point : Point} {layout : TabLayout α} {index : Nat} {q : Play α σ χ}
      (enabled : ¬p.1.flags.has WidgetFlags.disabled) (pressed : p.1.pressed = some index)
      (hit : (hit point).run p = (.ok (layout, some index), q)) (settles : settles layout index q) :
      Tap p (.event (.pointerUp point)) index (accepts layout index q)

/-- The operations that a signal can come from. -/
def Origin (op : TabOp α σ) (p : Play α σ χ) : Signal → Prop
  | .chosen selected => op = .setSelected selected ∧ ((op.run Traced.hearTab).run p).1.isOk
  | .recounted count => ∃ items, op = .setItems items ∧ items.length = count
  | .up _ _ _ => ∃ point, op = .event (.pointerUp point)
  | .cleared => op = .destroy
  | .heard _ | .down _ | .other => True

theorem signal_origin (op : TabOp α σ) (p : Play α σ χ) : Origin op p (signal op p) := by
  cases op with
  | event event =>
    cases event with
    | pointerUp point =>
      simp only [signal]
      split
      · trivial
      · rcases (hit point).run p with ⟨e | found, q⟩
        · trivial
        · exact ⟨point, rfl⟩
    | pointerDown point =>
      simp only [signal]
      split
      · trivial
      · rcases (hit point).run p with ⟨e | found, q⟩ <;> trivial
    | _ => trivial
  | setItems items =>
    simp only [signal]
    split
    · exact ⟨items, rfl, rfl⟩
    · trivial
  | setSelected selected =>
    simp only [signal]
    split
    next hok => exact ⟨rfl, hok⟩
    · trivial
  | destroy => rfl
  | _ => trivial

theorem signal_up_iff {op : TabOp α σ} {p : Play α σ χ} {index : Nat} {accepted : Bool} :
    p.1.pressed = some index ∧ signal op p = .up (some index) true accepted ↔
      Tap p op index accepted := by
  constructor
  · rintro ⟨hpressed, hsignal⟩
    obtain ⟨point, rfl⟩ : Origin op p (.up (some index) true accepted) :=
      hsignal ▸ signal_origin op p
    rw [signal] at hsignal
    split at hsignal
    · exact nomatch hsignal
    next enabled =>
      rcases hhit : (hit point).run p with ⟨e | ⟨layout, found⟩, q⟩
      · rw [hhit] at hsignal
        exact nomatch hsignal
      · rw [hhit] at hsignal
        simp only [Signal.up.injEq] at hsignal
        obtain ⟨rfl, hsettles, rfl⟩ := hsignal
        exact .intro enabled hpressed hhit hsettles
  · rintro ⟨enabled, pressed, hhit, hsettles⟩
    refine ⟨pressed, ?_⟩
    rw [signal, if_neg enabled, hhit]
    simp [hsettles]

theorem Follows.told_iff (h : Follows p (signal op p) q) (index : Nat) :
    q.2.tabTaps = index :: p.2.tabTaps ↔
      p.1.onSelect.isSome ∧ ∃ accepted, Tap p op index accepted := by
  have hcalls : q.2.tabTaps = index :: p.2.tabTaps ↔ p.1.choice.calls (signal op p) = [index] := by
    rw [h.calls, ← List.singleton_append, List.append_left_inj]
  rw [hcalls, Choice.calls_eq_singleton]
  constructor
  · rintro ⟨hl, hpressed, accepted, hsignal⟩
    exact ⟨hl, accepted, signal_up_iff.mp ⟨hpressed, hsignal⟩⟩
  · rintro ⟨hl, accepted, htap⟩
    obtain ⟨hpressed, hsignal⟩ := signal_up_iff.mpr htap
    exact ⟨hl, hpressed, accepted, hsignal⟩

/-- A selection changes in four ways only. -/
theorem Follows.selected_changed (h : Follows p (signal op p) q)
    (hne : q.1.selected ≠ p.1.selected) :
    (op = .setSelected q.1.selected ∧ ((op.run Traced.hearTab).run p).1.isOk) ∨
      (∃ i, Tap p op i true ∧ q.1.selected = some i) ∨
      (∃ items i, op = .setItems items ∧ p.1.selected = some i ∧ items.length ≤ i ∧
        q.1.selected = none) ∨
      op = .destroy ∧ q.1.selected = none := by
  have horigin := signal_origin op p
  have hsel : q.1.selected = (p.1.choice.next (signal op p)).selected :=
    congrArg Choice.selected h.choice
  rw [hsel] at hne ⊢
  rcases Choice.next_selected hne with hs | ⟨i, hpressed, hs, hi⟩ | ⟨count, i, hs, hp, hle, hn⟩ |
    ⟨hs, hn⟩
  · left
    rw [hs] at horigin
    exact horigin
  · right; left
    exact ⟨i, signal_up_iff.mp ⟨hpressed, hs⟩, hi⟩
  · right; right; left
    rw [hs] at horigin
    obtain ⟨items, rfl, rfl⟩ := horigin
    exact ⟨items, i, rfl, hp, hle, hn⟩
  · right; right; right
    rw [hs] at horigin
    exact ⟨horigin, hn⟩

/-- Through every run, and whatever the host, the channels and the listener refuse, a row does what
the machine does with the answers it gets. So its listener is told of exactly the tabs that are
tapped, once each; its selection changes in four ways only; and a release leaves nothing pressed. -/
theorem selection_refines (row : TabRow α (Traced σ) (Silent χ)) (t : Traced σ)
    (listener : Option (TabListener σ)) (ops : List (TabOp α σ)) :
    let start : Play α σ χ := ({ row with onSelect := listener.map Traced.hearTab }, t)
    let p := afterAll start ops
    p.1.choice = start.1.choice.run (signals start ops) ∧
      p.2.tabTaps = start.1.choice.told (signals start ops) ++ t.tabTaps ∧
      ∀ op : TabOp α σ, let q := after p op
        q.1.choice = p.1.choice.next (signal op p) ∧
        ((∀ i, q.2.tabTaps = i :: p.2.tabTaps ↔
            p.1.onSelect.isSome ∧ ∃ accepted, Tap p op i accepted) ∧
          (q.2.tabTaps = p.2.tabTaps ∨ ∃ i, q.2.tabTaps = i :: p.2.tabTaps)) ∧
        (q.1.selected ≠ p.1.selected →
          (op = .setSelected q.1.selected ∧ ((op.run Traced.hearTab).run p).1.isOk) ∨
          (∃ i, Tap p op i true ∧ q.1.selected = some i) ∨
          (∃ items i, op = .setItems items ∧ p.1.selected = some i ∧ items.length ≤ i ∧
            q.1.selected = none) ∨
          op = .destroy ∧ q.1.selected = none) ∧
        ∀ point, op = .event (.pointerUp point) → ¬p.1.flags.has WidgetFlags.disabled →
          ((hit point).run p).1.isOk → q.1.pressed = none := by
  intro start p
  obtain ⟨hchoice, htold, hheard⟩ := refines_afterAll ops (p := start) ⟨listener, rfl⟩
  refine ⟨hchoice, htold, fun op => ?_⟩
  have hf : Follows p (signal op p) (after p op) := follows_run op hheard
  refine ⟨hf.choice, ⟨hf.told_iff, hf.told_at_most_once⟩, hf.selected_changed, ?_⟩
  rintro point rfl hd hhit
  exact hf.released hd hhit

end Run

/-- Two tabs share a width of 200; a press and a release on the second one are a tap. -/
example :
    let start : Play Rat (Scripted Rat) (Timing Rat) :=
      (Scripted.row .default ["one", "two"] ⟨.idle⟩ ⟨.idle⟩, ⟨.start [], []⟩)
    let p := afterAll start [.setOnSelect (some fun _ => pure ()), .layout ⟨0, 0, 200, 48⟩,
      .event (.pointerDown ⟨150, 10⟩), .event (.pointerUp ⟨160, 20⟩)]
    p.2.tabTaps = [1] ∧ p.1.selected = some 1 ∧ p.1.pressed = none := by
  decide +kernel

end TabRow

end Widgetry
