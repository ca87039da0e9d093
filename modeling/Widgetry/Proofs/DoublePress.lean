import Widgetry.Proofs.Press
import Widgetry.Proofs.Segmented.Refinement
import Widgetry.Proofs.Tabs.Refinement

/-! A second press is refused only while the first one is pending: no release that the widget took
has come in between. A release that comes while the widget is disabled is not taken, and the press
outlasts it. -/
namespace Widgetry

/-- What a pointer that goes down is answered where the hit test answers `found`. -/
def pressAnswer (pressed : Option Nat) : Except Error (Option Nat) → Except Error Bool
  | .ok index => if pressed.isSome then .error (.state .pressedTwice) else .ok index.isSome
  | .error e => .error e

section Answer

variable {pressed : Option Nat} {found : Except Error (Option Nat)}

theorem pressAnswer_refused (h : pressAnswer pressed found = .error (.state .pressedTwice)) :
    found = .error (.state .pressedTwice) ∨ pressed ≠ none := by
  cases found with
  | error e => exact .inl (congrArg _ (Except.error.inj h))
  | ok index =>
    right
    rintro rfl
    exact nomatch h

theorem pressAnswer_taken (hnone : pressed = none) {index : Nat} :
    pressAnswer pressed (.ok (some index)) = .ok true := by
  rw [hnone]
  rfl

end Answer

namespace Choice

theorem down_of_pressed {c : Choice} {signal : Signal} (hnone : c.pressed = none)
    (h : (c.next signal).pressed ≠ none) : ∃ i, signal = .down (some i) := by
  cases signal with
  | down index =>
    simp only [next, hnone, Option.isSome_none, Bool.false_eq_true, if_false] at h
    obtain ⟨i, hi⟩ := Option.ne_none_iff_exists'.mp h
    exact ⟨i, congrArg _ hi⟩
  | recounted count =>
    rw [next, hnone] at h
    exact (h rfl).elim
  | up index settles accepts => exact (h (next_up_not_pressed _ _ _ _)).elim
  | cleared => exact (h rfl).elim
  | chosen _ => exact (h hnone).elim
  | heard _ => exact (h hnone).elim
  | other => exact (h hnone).elim

end Choice

namespace Toggle

theorem down_of_pressed {t : Toggle} {signal : SegmentSignal} (hnone : t.pressed = none)
    (h : (t.next signal).pressed ≠ none) : ∃ i, signal = .down (some i) := by
  cases signal with
  | down index =>
    simp only [next, hnone, Option.isSome_none, Bool.false_eq_true, if_false] at h
    obtain ⟨i, hi⟩ := Option.ne_none_iff_exists'.mp h
    exact ⟨i, congrArg _ hi⟩
  | recounted count =>
    rw [next, hnone] at h
    exact (h rfl).elim
  | reflagged count flags =>
    rw [next, hnone] at h
    exact (h rfl).elim
  | up index accepts => exact (h (next_up_not_pressed _ _ _)).elim
  | cleared => exact (h rfl).elim
  | chosen _ => exact (h hnone).elim
  | flagged _ _ => exact (h hnone).elim
  | heard _ => exact (h hnone).elim
  | other => exact (h hnone).elim

end Toggle

variable {α σ χ : Type} [Scalar α] [TextHost α σ]

namespace TabRow

variable [Channel α σ χ] {p : Play α σ χ} {point : Point}

theorem pointerDown_answer (hd : ¬p.1.flags.has WidgetFlags.disabled) :
    ((handleEvent (.pointerDown point)).run p).1 =
      pressAnswer p.1.pressed (((hit point).run p).1.map Prod.snd) := by
  change Ends (handleEvent (.pointerDown point)) p fun r _ => r = _
  rw [ends_handleEvent hd]
  dsimp only
  rw [onPointerDown, ends_bind]
  have hstill := still_hit point p ⟨rfl, rfl⟩
  rcases hhit : (hit point).run p with ⟨e | ⟨layout, index⟩, q⟩
  all_goals rw [ends_of_run hhit] at hstill ⊢
  · rfl
  · obtain ⟨-, hpressed, -⟩ := of_pick hstill.1
    dsimp only
    rw [ends_bind, Step.ends_self]
    dsimp only
    rw [hpressed, Except.map, pressAnswer]
    split
    · rfl
    · cases index <;> rfl

variable [PaintHost α σ]

/-- The pointer goes down on the row, and the row takes the press. -/
def Presses (p : Play α σ χ) (op : TabOp α σ) : Prop :=
  ∃ point, op = .event (.pointerDown point) ∧
    ((handleEvent (.pointerDown point)).run p).1 = .ok true

/-- The pointer goes up on the row while it is enabled, and the hit test has an answer. -/
def Releases (p : Play α σ χ) (op : TabOp α σ) : Prop :=
  ∃ point, op = .event (.pointerUp point) ∧ ¬p.1.flags.has WidgetFlags.disabled ∧
    ((hit point).run p).1.isOk

omit [PaintHost α σ] in
/-- A press comes from a pointer that goes down on an enabled row. -/
theorem down_of_signal {op : TabOp α σ} {index : Option Nat} (h : signal op p = .down index) :
    ∃ point, op = .event (.pointerDown point) ∧ ¬p.1.flags.has WidgetFlags.disabled ∧
      ((hit point).run p).1.map Prod.snd = .ok index := by
  cases op with
  | event event =>
    cases event with
    | pointerDown point =>
      rw [signal] at h
      split at h
      · cases h
      next hd =>
        refine ⟨point, rfl, hd, ?_⟩
        rcases hhit : (hit point).run p with ⟨e | ⟨layout, found⟩, q⟩
        all_goals rw [hhit] at h
        · cases h
        · obtain rfl := Signal.down.inj h
          rfl
    | pointerUp point =>
      rw [signal] at h
      split at h
      · cases h
      · rcases hhit : (hit point).run p with ⟨e | ⟨layout, found⟩, q⟩
        all_goals
          rw [hhit] at h
          cases h
    | _ => cases h
  | setSelected selected =>
    rw [signal] at h
    split at h <;> cases h
  | setItems items =>
    rw [signal] at h
    split at h <;> cases h
  | _ => cases h

def pressable : Pressable (Play α σ χ) (TabOp α σ) where
  Inv p := Heard p.1.onSelect
  after := after
  pressed p := p.1.pressed
  touch?
    | .event e => e.touch?
    | _ => none
  Presses := Presses
  Releases := Releases
  inv_after hp := (follows_run _ hp).heard
  down_of_presses := by
    rintro p _ ⟨point, rfl, -⟩
    rfl
  presses := by
    intro p op hp hnone h
    have hf : Follows p (signal op p) (after p op) := follows_run op hp
    have hpressed : (p.1.choice.next (signal op p)).pressed ≠ none := hf.choice ▸ h
    obtain ⟨i, hsignal⟩ := Choice.down_of_pressed hnone hpressed
    obtain ⟨point, rfl, hd, hhit⟩ := down_of_signal hsignal
    refine ⟨point, rfl, ?_⟩
    rw [pointerDown_answer hd, hhit]
    exact pressAnswer_taken hnone
  released := by
    rintro p _ hp ⟨point, rfl, hd, hhit⟩
    have hf : Follows p (signal (.event (.pointerUp point)) p) (after p _) := follows_run _ hp
    exact hf.released hd hhit

omit [PaintHost α σ] in
/-- A new row is not pressed, and nobody listens to it. -/
theorem ends_create_new (style : TabStyle α) (items : List String) (selected : Option Nat)
    (positionChannel widthChannel : Silent χ) (t : Traced σ) :
    Ends (create style items selected positionChannel widthChannel) t fun r _ =>
      ∀ row : TabRow α (Traced σ) (Silent χ), r = .ok row → row.pick = (selected, none, none) := by
  apply (ends_create_ok style items selected positionChannel widthChannel t).imp
  intro r t' hmade row hr
  obtain ⟨-, -, font, t₀, hsync⟩ := hmade row hr
  exact ((ends_of_run hsync).mp (still_syncIndicator _ _ _ ⟨rfl, rfl⟩)).1

end TabRow

namespace SegmentGroup

variable {p : Play α σ} {point : Point}

theorem pointerDown_answer (hg : p.1.InRange) (hd : ¬p.1.flags.has WidgetFlags.disabled) :
    ((handleEvent (.pointerDown point)).run p).1 =
      pressAnswer p.1.pressed ((hit point).run p).1 := by
  change Ends (handleEvent (.pointerDown point)) p fun r _ => r = _
  rw [ends_handleEvent hg hd]
  dsimp only
  rw [onPointerDown, ends_bind]
  have hstill := ends_hit_still point p
  rcases hhit : (hit point).run p with ⟨e | index, q⟩
  all_goals rw [ends_of_run hhit] at hstill ⊢
  · rfl
  · dsimp only
    rw [ends_bind, Step.ends_self, hstill.1]
    dsimp only
    rw [pressAnswer]
    split
    · rfl
    · cases index <;> rfl

variable [PaintHost α σ]

/-- The pointer goes down on the group, and the group takes the press. -/
def Presses (p : Play α σ) (op : SegmentOp α σ) : Prop :=
  ∃ point, op = .event (.pointerDown point) ∧
    ((handleEvent (.pointerDown point)).run p).1 = .ok true

/-- The pointer goes up on the group while it is enabled, and the hit test has an answer. -/
def Releases (p : Play α σ) (op : SegmentOp α σ) : Prop :=
  ∃ point, op = .event (.pointerUp point) ∧ ¬p.1.flags.has WidgetFlags.disabled ∧
    ((hit point).run p).1.isOk

omit [PaintHost α σ] in
theorem down_of_signal {op : SegmentOp α σ} {index : Option Nat} (h : signal op p = .down index) :
    ∃ point, op = .event (.pointerDown point) ∧ ¬p.1.flags.has WidgetFlags.disabled ∧
      ((hit point).run p).1 = .ok index := by
  have hgranted {act : Step (SegmentGroup α (Traced σ)) (Traced σ) Unit} {signal : SegmentSignal}
      (h : granted act p signal = .down index) : signal = .down index := by
    rw [granted] at h
    split at h
    · exact h
    · cases h
  cases op with
  | event event =>
    cases event with
    | pointerDown point =>
      rw [signal] at h
      split at h
      · cases h
      next hd =>
        refine ⟨point, rfl, hd, ?_⟩
        rcases hhit : (hit point).run p with ⟨e | found, q⟩
        all_goals rw [hhit] at h
        · cases h
        · obtain rfl := SegmentSignal.down.inj h
          rfl
    | pointerUp point =>
      rw [signal] at h
      split at h
      · cases h
      · rcases hhit : (hit point).run p with ⟨e | found, q⟩
        all_goals
          rw [hhit] at h
          cases h
    | _ => cases h
  | setItems items => cases hgranted h
  | setItemsWithStates items flags => cases hgranted h
  | setSelectedIndex selected => cases hgranted h
  | setSelectedState index on => cases hgranted h
  | _ => cases h

def pressable : Pressable (Play α σ) (SegmentOp α σ) where
  Inv := Reachable Traced.hearSegment
  after := after
  pressed p := p.1.pressed
  touch?
    | .event e => e.touch?
    | _ => none
  Presses := Presses
  Releases := Releases
  inv_after hp := .operated _ hp
  down_of_presses := by
    rintro p _ ⟨point, rfl, -⟩
    rfl
  presses := by
    intro p op hp hnone h
    have hpressed : (p.1.toggle.next (signal op p)).pressed ≠ none := (hp.follows op).toggle ▸ h
    obtain ⟨i, hsignal⟩ := Toggle.down_of_pressed hnone hpressed
    obtain ⟨point, rfl, hd, hhit⟩ := down_of_signal hsignal
    refine ⟨point, rfl, ?_⟩
    rw [pointerDown_answer hp.inRange hd, hhit]
    exact pressAnswer_taken hnone
  released := by
    rintro p _ hp ⟨point, rfl, hd, hhit⟩
    exact (hp.follows _).released hd hhit

omit [PaintHost α σ] in
theorem ends_create_new (style : SegmentStyle α) (items : List String) (selection : Selection)
    (t : Traced σ) :
    Ends (create style items selection) t fun r _ =>
      ∀ group : SegmentGroup α (Traced σ), r = .ok group → group.pressed = none := by
  apply (ends_create_ok style items selection t).imp
  intro r t' hmade group hr
  obtain ⟨-, font, rfl⟩ := hmade group hr
  rfl

end SegmentGroup

variable [Channel α σ χ] [PaintHost α σ]

/-- In every run of a new row or a new group, a pointer that goes down is told that it pressed twice
only while a press is held that no release it took has ended, unless the hit test itself failed with
that error. So a host whose pointers go down and up in turn, and whose releases are all taken, is
never told so. -/
theorem double_press_truthful :
    (∀ style items selected (positionChannel widthChannel : Silent χ) (t : Traced σ)
        (p : TabRow.Play α σ χ),
      (TabRow.create style items selected positionChannel widthChannel).run t = (.ok p.1, p.2) →
      ∀ (ops : List (TabOp α σ)) point, let q := TabRow.afterAll p ops
        ((TabRow.handleEvent (.pointerDown point)).run q).1 = .error (.state .pressedTwice) →
          ((TabRow.hit point).run q).1.map Prod.snd = .error (.state .pressedTwice) ∨
            TabRow.pressable.Doubles p ops (.event (.pointerDown point))) ∧
    ∀ style items selection (t : Traced σ) (p : SegmentGroup.Play α σ),
      (SegmentGroup.create style items selection).run t = (.ok p.1, p.2) →
      ∀ (ops : List (SegmentOp α σ)) point, let q := SegmentGroup.afterAll p ops
        ((SegmentGroup.handleEvent (.pointerDown point)).run q).1 =
            .error (.state .pressedTwice) →
          ((SegmentGroup.hit point).run q).1 = .error (.state .pressedTwice) ∨
            SegmentGroup.pressable.Doubles p ops (.event (.pointerDown point)) := by
  constructor
  · intro style items selected positionChannel widthChannel t p hmake ops point q hanswer
    have hnew := (ends_of_run hmake).mp (TabRow.ends_create_new _ _ _ _ _ _) p.1 rfl
    simp only [TabRow.pick, Prod.mk.injEq] at hnew
    obtain ⟨-, hpressed, hlisten⟩ := hnew
    by_cases hd : q.1.flags.has WidgetFlags.disabled
    · have hfalse : Ends (TabRow.handleEvent (.pointerDown point)) q fun r _ => r = .ok false :=
        (TabRow.ends_handleEvent_disabled hd).mpr rfl
      cases hfalse.symm.trans hanswer
    rw [TabRow.pointerDown_answer hd] at hanswer
    exact (pressAnswer_refused hanswer).imp_right
      (Pressable.doubles_of_pressed (m := TabRow.pressable) ⟨none, hlisten⟩ hpressed rfl)
  · intro style items selection t p hmake ops point q hanswer
    have hp : SegmentGroup.Reachable Traced.hearSegment p := .created hmake
    have hpressed := (ends_of_run hmake).mp (SegmentGroup.ends_create_new _ _ _ _) p.1 rfl
    have hq : SegmentGroup.Reachable Traced.hearSegment q :=
      Pressable.inv_run (m := SegmentGroup.pressable) hp ops
    by_cases hd : q.1.flags.has WidgetFlags.disabled
    · have hfalse : Ends (SegmentGroup.handleEvent (.pointerDown point)) q
          fun r _ => r = .ok false := (SegmentGroup.ends_handleEvent_disabled hd).mpr rfl
      cases hfalse.symm.trans hanswer
    rw [SegmentGroup.pointerDown_answer hq.inRange hd] at hanswer
    exact (pressAnswer_refused hanswer).imp_right
      (Pressable.doubles_of_pressed (m := SegmentGroup.pressable) hp hpressed rfl)

/-- Two tabs of 100 each. -/
def pressableTabs :
    HostM (Traced (Scripted Rat)) (TabRow Rat (Traced (Scripted Rat)) (Silent (Timing Rat))) :=
  TabRow.create { TabStyle.default with text := .withFamily "Sans" } ["one", "two"] none
    ⟨.idle⟩ ⟨.idle⟩

/-- A press on the first tab. -/
def press : List (TabOp Rat (Scripted Rat)) :=
  [.layout ⟨0, 0, 200, 48⟩, .event (.pointerDown ⟨50, 24⟩)]

/-- A press on the first segment. -/
def segmentPress : List (SegmentOp Rat (Scripted Rat)) :=
  [.layout ⟨0, 0, 200, 32⟩, .event (.pointerDown ⟨50, 10⟩)]

theorem double_press_truthful_held :
    (∃ p, pressableTabs.run ⟨.start [], []⟩ = (.ok p.1, p.2) ∧
      ((TabRow.handleEvent (.pointerDown ⟨150, 24⟩)).run (TabRow.afterAll p press)).1 =
        .error (.state .pressedTwice) ∧
      TabRow.pressable.Doubles p press (.event (.pointerDown ⟨150, 24⟩))) ∧
    ∃ p, SegmentGroup.twoSegments.run ⟨.start [], []⟩ = (.ok p.1, p.2) ∧
      ((SegmentGroup.handleEvent (.pointerDown ⟨150, 10⟩)).run
        (SegmentGroup.afterAll p segmentPress)).1 = .error (.state .pressedTwice) ∧
      SegmentGroup.pressable.Doubles p segmentPress (.event (.pointerDown ⟨150, 10⟩)) := by
  constructor
  · have hrun : (match pressableTabs.run ⟨.start [], []⟩ with
        | (.ok row, t) =>
          let q := TabRow.afterAll (row, t) press
          decide (((TabRow.handleEvent (.pointerDown ⟨150, 24⟩)).run q).1 =
              .error (.state .pressedTwice) ∧
            ((TabRow.hit ⟨150, 24⟩).run q).1.map Prod.snd = .ok (some 1))
        | (.error _, _) => false) = true := by decide +kernel
    rcases hmake : pressableTabs.run ⟨.start [], []⟩ with ⟨e | row, t⟩
    all_goals rw [hmake] at hrun
    · exact nomatch hrun
    obtain ⟨hanswer, hhit⟩ := of_decide_eq_true hrun
    have hdoubles := (double_press_truthful (σ := Scripted Rat) (χ := Timing Rat)).1
      { TabStyle.default with text := .withFamily "Sans" }
      ["one", "two"] none ⟨.idle⟩ ⟨.idle⟩ ⟨.start [], []⟩ (row, t) hmake press ⟨150, 24⟩ hanswer
    refine ⟨(row, t), rfl, hanswer, hdoubles.resolve_left ?_⟩
    rw [show ((TabRow.hit ⟨150, 24⟩).run _).1.map Prod.snd = .ok (some 1) from hhit]
    exact nofun
  · have hrun : (match SegmentGroup.twoSegments.run ⟨.start [], []⟩ with
        | (.ok group, t) =>
          let q := SegmentGroup.afterAll (group, t) segmentPress
          decide (((SegmentGroup.handleEvent (.pointerDown ⟨150, 10⟩)).run q).1 =
              .error (.state .pressedTwice) ∧
            ((SegmentGroup.hit ⟨150, 10⟩).run q).1 = .ok (some 1))
        | (.error _, _) => false) = true := by decide +kernel
    rcases hmake : SegmentGroup.twoSegments.run ⟨.start [], []⟩ with ⟨e | group, t⟩
    all_goals rw [hmake] at hrun
    · exact nomatch hrun
    obtain ⟨hanswer, hhit⟩ := of_decide_eq_true hrun
    have hdoubles := (double_press_truthful (σ := Scripted Rat) (χ := Timing Rat)).2
      { SegmentStyle.default with text := .withFamily "Sans" }
      ["one", "two"] (.multi [true, false]) ⟨.start [], []⟩ (group, t) hmake segmentPress ⟨150, 10⟩
      hanswer
    refine ⟨(group, t), rfl, hanswer, hdoubles.resolve_left ?_⟩
    rw [show ((SegmentGroup.hit ⟨150, 10⟩).run _).1 = .ok (some 1) from hhit]
    exact nofun

/-- The pointer goes up while the row is disabled. -/
def disabledRelease : List (TabOp Rat (Scripted Rat)) :=
  [.setDisabled true, .event (.pointerUp ⟨50, 24⟩), .setDisabled false]

/-- Pointers go down and up in turn, but the row was disabled in between. -/
theorem disabled_release_not_taken : ∃ p,
    pressableTabs.run ⟨.start [], []⟩ = (.ok p.1, p.2) ∧
      (TabRow.afterAll p press).1.pressed = some 0 ∧
      ((TabRow.handleEvent (.pointerDown ⟨50, 24⟩)).run
        (TabRow.afterAll p (press ++ disabledRelease))).1 = .error (.state .pressedTwice) ∧
      ((TabRow.hit ⟨50, 24⟩).run (TabRow.afterAll p (press ++ disabledRelease))).1.map Prod.snd =
        .ok (some 0) ∧
      (TabRow.pressable (χ := Timing Rat)).Alternates
        (press ++ disabledRelease ++ [.event (.pointerDown ⟨50, 24⟩)]) := by
  have hrun : (match pressableTabs.run ⟨.start [], []⟩ with
      | (.ok row, t) =>
        let q := TabRow.afterAll (row, t) (press ++ disabledRelease)
        decide ((TabRow.afterAll (row, t) press).1.pressed = some 0 ∧
          ((TabRow.handleEvent (.pointerDown ⟨50, 24⟩)).run q).1 =
            .error (.state .pressedTwice) ∧
          ((TabRow.hit ⟨50, 24⟩).run q).1.map Prod.snd = .ok (some 0))
      | (.error _, _) => false) = true := by decide +kernel
  rcases hmake : pressableTabs.run ⟨.start [], []⟩ with ⟨e | row, t⟩
  all_goals rw [hmake] at hrun
  · exact nomatch hrun
  obtain ⟨hpressed, hanswer, hhit⟩ := of_decide_eq_true hrun
  refine ⟨(row, t), rfl, hpressed, hanswer, hhit, ?_⟩
  exact .cons_cons nofun (.cons_cons nofun (.singleton _))

end Widgetry
