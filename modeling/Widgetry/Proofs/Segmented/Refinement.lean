import Widgetry.Proofs.Host.Holding
import Widgetry.Proofs.Host.Scripted
import Widgetry.Proofs.Segmented.Selection

/-! A group of segments refines the machine of `Toggle`, over every run and whatever its host and
its listener refuse. -/
namespace Widgetry

open Step (At)

namespace SegmentGroup

variable {α σ β : Type}

def toggle (group : SegmentGroup α σ) : Toggle :=
  ⟨group.selection, group.pressed, group.onSelect.isSome⟩

/-- The group has done what the machine does. -/
structure Follows (p : Play α σ) (signal : SegmentSignal) (q : Play α σ) : Prop where
  toggle : q.1.toggle = p.1.toggle.next signal
  calls : q.2.segmentTaps = p.1.toggle.calls signal ++ p.2.segmentTaps
  heard : Heard q.1.onSelect

/-- Selection, press and listener. -/
def pick (group : SegmentGroup α σ) : Selection × Option Nat × Option (SegmentListener σ) :=
  (group.selection, group.pressed, group.onSelect)

/-- Selection, press and listener are as in `group`, and no tap was told of since `taps`. -/
abbrev Still (group : SegmentGroup α (Traced σ)) (taps : List (Nat × Bool)) : Play α σ → Prop :=
  At pick group.pick (Told taps)

variable {group : SegmentGroup α (Traced σ)} {taps : List (Nat × Bool)} {p q : Play α σ}

/-- The listener stays and hears of nothing. -/
theorem Follows.quiet {signal : SegmentSignal} (hl : Heard p.1.onSelect)
    (hlisten : q.1.onSelect = p.1.onSelect) (htaps : q.2.segmentTaps = p.2.segmentTaps)
    (hnext : q.1.toggle = p.1.toggle.next signal) (hcalls : p.1.toggle.calls signal = []) :
    Follows p signal q := by
  refine ⟨hnext, ?_, ?_⟩
  · rw [hcalls, htaps, List.nil_append]
  · rwa [hlisten]

theorem Follows.of_still (h : Still p.1 p.2.segmentTaps q) (hl : Heard p.1.onSelect) :
    Follows p .other q := by
  obtain ⟨hpick, htaps⟩ := h
  simp only [pick, Prod.mk.injEq] at hpick
  obtain ⟨hs, hp, hlisten⟩ := hpick
  refine .quiet hl hlisten htaps ?_ rfl
  rw [SegmentGroup.toggle, hs, hp, hlisten]
  rfl

theorem still_of_same {act : Step (SegmentGroup α (Traced σ)) (Traced σ) β}
    (h : ∀ group, Keeps (At id group (Told taps)) act) : Keeps (Still group taps) act := by
  rintro p ⟨hpick, ht⟩
  apply (h p.1).ends ⟨rfl, ht⟩
  rintro r q ⟨hq, hqt⟩
  refine ⟨?_, hqt⟩
  rw [show q.1 = p.1 from hq]
  exact hpick

variable [TextHost α σ] [Scalar α]

/-- After a release nothing is pressed, and at most the segment that was tapped is turned. -/
theorem ends_onPointerUp {point : Point} {index : Option Nat} (hg : p.1.InRange)
    (hl : Heard p.1.onSelect) (hhit : (hit point).run p = (.ok index, q)) :
    Ends (onPointerUp point) p fun _ q' => Follows p (.up index (index.any (accepts · q))) q' := by
  have hstill := ends_hit_still point p
  rw [ends_of_run hhit] at hstill
  obtain ⟨hsame, htaps⟩ := hstill
  have hlisten : q.1.onSelect = p.1.onSelect := congrArg onSelect hsame
  have hquiet (htap : p.1.toggle.tap index = none) :
      Follows p (.up index (index.any (accepts · q))) ({ q.1 with pressed := none }, q.2) := by
    refine .quiet hl hlisten htaps ?_ (Toggle.calls_up_of_tap htap)
    rw [Toggle.next_up_of_tap htap, hsame]
    rfl
  rw [onPointerUp, ends_bind, ends_of_run hhit]
  dsimp only
  rw [ends_bind, Step.ends_self]
  dsimp only
  cases hpressed : q.1.pressed with
  | none =>
    have htap : p.1.toggle.tap index = none := Toggle.tap_unpressed (hsame ▸ hpressed)
    have hfollows := hquiet htap
    rwa [← hpressed] at hfollows
  | some pressed =>
    have hp : p.1.toggle.pressed = some pressed := hsame ▸ hpressed
    dsimp only
    by_cases hi : index = some pressed
    · subst hi
      have hin : pressed < q.1.items.length := (hsame ▸ hg.pressed) pressed hpressed
      rw [if_pos rfl, ends_bind, ends_tryCatch]
      apply (ends_commit (hsame ▸ hg) hin (hsame ▸ hl)).imp
      rintro r q' ⟨hr, hq', ht⟩
      have hreleased : Follows p (.up (some pressed) (accepts pressed q))
          ({ q'.1 with pressed := none }, q'.2) := by
        rw [← hr]
        refine ⟨?_, ?_, ?_⟩
        · rw [Toggle.next_up_pressed hp, toggle, hq', hsame]
          cases r <;> rfl
        · rw [Toggle.calls_up_pressed hp, ht, htaps, hsame]
          rfl
        · change Heard q'.1.onSelect
          rw [hq', hsame]
          cases r <;> exact hl
      rcases r with e | ⟨⟩
      · exact hreleased
      · exact hreleased
    · rw [if_neg hi]
      exact hquiet (Toggle.tap_elsewhere fun h => hi (h.symm.trans hp))

/-- A setter that has not failed, or nothing. -/
def granted (act : Step (SegmentGroup α (Traced σ)) (Traced σ) Unit) (p : Play α σ)
    (signal : SegmentSignal) : SegmentSignal := if (act.run p).1.isOk then signal else .other

/-- What an operation is to the machine, with the answers that the hit test and the listener have
for it. -/
def signal (op : SegmentOp α σ) (p : Play α σ) : SegmentSignal :=
  match op with
  | .setItems items => granted (setItems items) p (.recounted items.length)
  | .setItemsWithStates items flags =>
    granted (setItemsWithStates items flags) p (.reflagged items.length flags)
  | .setSelectedIndex selected => granted (setSelectedIndex selected) p (.chosen selected)
  | .setSelectedState index on => granted (setSelectedState index on) p (.flagged index on)
  | .setOnSelect listener => .heard listener.isSome
  | .event (.pointerDown point) =>
    if p.1.flags.has WidgetFlags.disabled then .other
    else
      match (hit point).run p with
      | (.ok index, _) => .down index
      | (.error _, _) => .other
  | .event (.pointerUp point) =>
    if p.1.flags.has WidgetFlags.disabled then .other
    else
      match (hit point).run p with
      | (.ok index, q) => .up index (index.any (accepts · q))
      | (.error _, _) => .other
  | .destroy => .cleared
  | _ => .other

omit [TextHost α σ] [Scalar α] in
theorem follows_granted {act : Step (SegmentGroup α (Traced σ)) (Traced σ) Unit}
    {group' : SegmentGroup α (Traced σ)} {signal : SegmentSignal} (hl : Heard p.1.onSelect)
    (hspec : Ends act p fun r q => q.2 = p.2 ∧ q.1 = if r.isOk then group' else p.1)
    (hlisten : group'.onSelect = p.1.onSelect) (hnext : group'.toggle = p.1.toggle.next signal)
    (hcalls : p.1.toggle.calls signal = []) :
    Ends act p fun _ q => Follows p (granted act p signal) q := by
  rcases hrun : act.run p with ⟨r, q⟩
  rw [ends_of_run hrun] at hspec ⊢
  obtain ⟨ht, hq⟩ := hspec
  rw [granted, hrun]
  dsimp only
  split
  next hok =>
    rw [if_pos hok] at hq
    exact .quiet hl (hq ▸ hlisten) (congrArg _ ht) (hq ▸ hnext) hcalls
  next hfailed =>
    rw [if_neg hfailed] at hq
    exact .of_still ⟨congrArg pick hq, congrArg _ ht⟩ hl

/-- The check before a pointer event passes. -/
theorem ends_handleEvent {event : InputEvent} {post : Except Error Bool → Play α σ → Prop}
    (hg : p.1.InRange) (hd : ¬p.1.flags.has WidgetFlags.disabled) :
    Ends (handleEvent event) p post ↔
      Ends (match event with
        | .pointerDown point => onPointerDown point
        | .pointerUp point => onPointerUp point
        | _ => return false) p post := by
  have hcheck : (checkSelection : Step (SegmentGroup α (Traced σ)) (Traced σ) Unit).run p =
      (.ok (), p) := Prod.ext (ends_checkSelection hg).1 (ends_checkSelection hg).2
  unfold handleEvent
  rw [ends_bind, Step.ends_self]
  cases event
  all_goals
    dsimp only
    rw [if_neg hd]
  all_goals rw [ends_bind, ends_of_run hcheck]

theorem follows_event (event : InputEvent) (hg : p.1.InRange) (hl : Heard p.1.onSelect) :
    Ends (handleEvent event) p fun _ q => Follows p (signal (.event event) p) q := by
  have hsame : Follows p .other p := .of_still ⟨rfl, rfl⟩ hl
  by_cases hd : p.1.flags.has WidgetFlags.disabled
  · have hnone : signal (.event event) p = .other := by
      cases event <;> simp [signal, hd]
    rw [hnone, ends_handleEvent_disabled hd]
    exact hsame
  rw [ends_handleEvent hg hd]
  cases event with
  | pointerDown point =>
    simp only [signal, hd]
    have hstill := ends_hit_still point p
    rcases hhit : (hit point).run p with ⟨e | index, q⟩
    · rw [ends_of_run hhit] at hstill
      dsimp only
      rw [onPointerDown, ends_bind, ends_of_run hhit]
      exact .of_still ⟨congrArg pick hstill.1, hstill.2⟩ hl
    · apply (ends_onPointerDown hhit).imp
      rintro _ q' ⟨hq, htaps⟩
      refine .quiet hl (hq ▸ rfl) htaps ?_ rfl
      rw [toggle, hq]
      cases hpressed : p.1.pressed with
      | none => simp [Toggle.next, toggle, hpressed]
      | some pressed => simp [Toggle.next, toggle, hpressed]
  | pointerUp point =>
    simp only [signal, hd]
    have hstill := ends_hit_still point p
    rcases hhit : (hit point).run p with ⟨e | index, q⟩
    · rw [ends_of_run hhit] at hstill
      dsimp only
      rw [onPointerUp, ends_bind, ends_of_run hhit]
      exact .of_still ⟨congrArg pick hstill.1, hstill.2⟩ hl
    · exact ends_onPointerUp hg hl hhit
  | scroll _ _ _ => exact hsame
  | pointerMove _ => exact hsame
  | keyDown _ => exact hsame
  | keyUp _ => exact hsame

section Run

variable [PaintHost α σ]

theorem follows_run (op : SegmentOp α σ) (hg : p.1.InRange) (hl : Heard p.1.onSelect) :
    Ends (op.run Traced.hearSegment) p fun _ q => Follows p (signal op p) q := by
  have hquiet : ∀ {act : Step (SegmentGroup α (Traced σ)) (Traced σ) Unit},
      Keeps (Still p.1 p.2.segmentTaps) act → Ends act p fun _ q => Follows p .other q :=
    fun hkeeps => (hkeeps p ⟨rfl, rfl⟩).imp fun _ _ hq => .of_still hq hl
  cases op with
  | setItems items => exact follows_granted hl (ends_setItems items p) rfl rfl rfl
  | setItemsWithStates items flags =>
    exact follows_granted hl (ends_setItemsWithStates items flags p) rfl rfl rfl
  | setSelectedIndex selected =>
    exact follows_granted hl (ends_setSelectedIndex selected p) rfl rfl rfl
  | setSelectedState index on =>
    exact follows_granted hl (ends_setSelectedState index on p) rfl rfl rfl
  | setStyle style =>
    refine hquiet ((Step.keeps_check _).bind fun _ => ?_)
    refine Keeps.bind (Step.keeps_at_host
      (OwnedFont.host_keeps_create (told_createFont _))) fun font => ?_
    refine Keeps.bind (Step.keeps_at_zoom (fun _ _ => rfl)
      (OwnedFont.host_keeps_replace told_destroyFont font)) fun _ => ?_
    exact Step.keeps_at_update fun _ => rfl
  | setOnSelect listener =>
    refine ⟨?_, rfl, listener, rfl⟩
    cases listener <;> rfl
  | setFlags flags => exact hquiet (Step.keeps_at_update fun _ => rfl)
  | setDisabled on => exact hquiet (Step.keeps_at_update fun _ => rfl)
  | measure width height =>
    exact hquiet (keeps_ignore (still_of_same fun group =>
      keeps_measure (measures_told group.font) width height))
  | layout bounds =>
    exact hquiet ((Step.keeps_check _).bind fun _ => Step.keeps_at_update fun _ => rfl)
  | paint =>
    exact hquiet (still_of_same fun group => keeps_paint (measures_told group.font)
      (fun _ _ _ _ h => h) fun _ _ _ _ _ _ _ h => h)
  | event e => exact ends_ignore.mpr (follows_event e hg hl)
  | destroy =>
    have hrelease : Keeps (Still p.1 p.2.segmentTaps) (onFont OwnedFont.release) :=
      Step.keeps_at_zoom (fun _ _ => rfl) (OwnedFont.host_keeps_release told_destroyFont)
    change Ends destroy p _
    rw [ends_destroy]
    apply (hrelease p ⟨rfl, rfl⟩).imp
    rintro r q ⟨hpick, htaps⟩
    refine ⟨?_, htaps, none, rfl⟩
    have hselection : q.1.selection = p.1.selection := congrArg Prod.fst hpick
    rw [toggle, cleared, hselection]
    rfl

/-- Every listener of a group that a program brings about is recorded. -/
theorem Reachable.heard (hp : Reachable Traced.hearSegment p) : Heard p.1.onSelect := by
  induction hp with
  | @created style items selection h h' group run =>
    obtain ⟨-, font, rfl⟩ :=
      (ends_of_run run).mp (ends_create_ok style items selection h) group rfl
    exact ⟨none, rfl⟩
  | operated op hp ih => exact (follows_run op hp.inRange ih).heard

def after (p : Play α σ) (op : SegmentOp α σ) : Play α σ := ((op.run Traced.hearSegment).run p).2

def afterAll (p : Play α σ) (ops : List (SegmentOp α σ)) : Play α σ := ops.foldl after p

def signals (p : Play α σ) : List (SegmentOp α σ) → List SegmentSignal
  | [] => []
  | op :: ops => signal op p :: signals (after p op) ops

theorem Reachable.follows (hp : Reachable Traced.hearSegment p) (op : SegmentOp α σ) :
    Follows p (signal op p) (after p op) := follows_run op hp.inRange hp.heard

theorem refines_afterAll (ops : List (SegmentOp α σ)) (hp : Reachable Traced.hearSegment p) :
    (afterAll p ops).1.toggle = p.1.toggle.run (signals p ops) ∧
      (afterAll p ops).2.segmentTaps = p.1.toggle.told (signals p ops) ++ p.2.segmentTaps := by
  induction ops generalizing p with
  | nil => exact ⟨rfl, rfl⟩
  | cons op ops ih =>
    obtain ⟨htoggle, hcalls, -⟩ := hp.follows op
    have hnext : Reachable Traced.hearSegment (after p op) := hp.operated op
    obtain ⟨ht, hc⟩ := ih hnext
    refine ⟨?_, ?_⟩
    · exact ht.trans (congrArg (Toggle.run · _) htoggle)
    · rw [htoggle, hcalls, ← List.append_assoc] at hc
      exact hc

/-- An operation that taps segment `index`: on an enabled group the pointer goes up over the segment
that is pressed. The listener, if there is one, accepts it or not. -/
inductive Tap (p : Play α σ) : SegmentOp α σ → (index : Nat) → (accepted : Bool) → Prop
  | intro {point : Point} {index : Nat} {q : Play α σ}
      (enabled : ¬p.1.flags.has WidgetFlags.disabled) (pressed : p.1.pressed = some index)
      (hit : (hit point).run p = (.ok (some index), q)) :
      Tap p (.event (.pointerUp point)) index (accepts index q)

/-- The operations that a signal can come from. -/
def Origin (op : SegmentOp α σ) (p : Play α σ) : SegmentSignal → Prop
  | .chosen selected =>
    op = .setSelectedIndex selected ∧ ((op.run Traced.hearSegment).run p).1.isOk
  | .flagged index on =>
    op = .setSelectedState index on ∧ ((op.run Traced.hearSegment).run p).1.isOk
  | .recounted _ =>
    (∃ items, op = .setItems items) ∧ ((op.run Traced.hearSegment).run p).1.isOk
  | .reflagged _ flags =>
    (∃ items, op = .setItemsWithStates items flags) ∧ ((op.run Traced.hearSegment).run p).1.isOk
  | .up _ _ => ∃ point, op = .event (.pointerUp point)
  | .cleared => op = .destroy
  | .heard _ | .down _ | .other => True

theorem origin_granted {op : SegmentOp α σ} {signal : SegmentSignal}
    (h : ((op.run Traced.hearSegment).run p).1.isOk → Origin op p signal) :
    Origin op p (granted (op.run Traced.hearSegment) p signal) := by
  rw [granted]
  split
  next hok => exact h hok
  · trivial

theorem signal_origin (op : SegmentOp α σ) (p : Play α σ) : Origin op p (signal op p) := by
  cases op with
  | setItems items => exact origin_granted fun hok => ⟨⟨items, rfl⟩, hok⟩
  | setItemsWithStates items flags => exact origin_granted fun hok => ⟨⟨items, rfl⟩, hok⟩
  | setSelectedIndex selected => exact origin_granted fun hok => ⟨rfl, hok⟩
  | setSelectedState index on => exact origin_granted fun hok => ⟨rfl, hok⟩
  | event event =>
    cases event with
    | pointerUp point =>
      simp only [signal]
      split
      · trivial
      · rcases (hit point).run p with ⟨e | index, q⟩
        · trivial
        · exact ⟨point, rfl⟩
    | pointerDown point =>
      simp only [signal]
      split
      · trivial
      · rcases (hit point).run p with ⟨e | index, q⟩ <;> trivial
    | _ => trivial
  | destroy => rfl
  | _ => trivial

theorem signal_up_iff {op : SegmentOp α σ} {index : Nat} {accepted : Bool} :
    p.1.pressed = some index ∧ signal op p = .up (some index) accepted ↔
      Tap p op index accepted := by
  constructor
  · rintro ⟨hpressed, hsignal⟩
    obtain ⟨point, rfl⟩ : Origin op p (.up (some index) accepted) := hsignal ▸ signal_origin op p
    rw [signal] at hsignal
    split at hsignal
    · exact nomatch hsignal
    next enabled =>
      rcases hhit : (hit point).run p with ⟨e | found, q⟩
      · rw [hhit] at hsignal
        exact nomatch hsignal
      · rw [hhit] at hsignal
        simp only [SegmentSignal.up.injEq] at hsignal
        obtain ⟨rfl, rfl⟩ := hsignal
        exact .intro enabled hpressed hhit
  · rintro ⟨enabled, pressed, hhit⟩
    refine ⟨pressed, ?_⟩
    rw [signal, if_neg enabled, hhit]
    rfl

variable {op : SegmentOp α σ}

theorem Follows.told_iff (h : Follows p (signal op p) q) (index : Nat) (on : Bool) :
    q.2.segmentTaps = (index, on) :: p.2.segmentTaps ↔
      p.1.onSelect.isSome ∧ on = p.1.selection.turnsOn index ∧
        ∃ accepted, Tap p op index accepted := by
  have hcalls : q.2.segmentTaps = (index, on) :: p.2.segmentTaps ↔
      p.1.toggle.calls (signal op p) = [(index, on)] := by
    rw [h.calls, ← List.singleton_append, List.append_left_inj]
  rw [hcalls, Toggle.calls_eq_singleton]
  constructor
  · rintro ⟨hl, hpressed, hon, accepted, hsignal⟩
    exact ⟨hl, hon, accepted, signal_up_iff.mp ⟨hpressed, hsignal⟩⟩
  · rintro ⟨hl, hon, accepted, htap⟩
    obtain ⟨hpressed, hsignal⟩ := signal_up_iff.mpr htap
    exact ⟨hl, hpressed, hon, accepted, hsignal⟩

omit [PaintHost α σ] in
theorem Follows.told_at_most_once (h : Follows p (signal op p) q) :
    q.2.segmentTaps = p.2.segmentTaps ∨
      ∃ index on, q.2.segmentTaps = (index, on) :: p.2.segmentTaps := by
  rw [h.calls]
  rcases p.1.toggle.calls_eq_nil_or (signal op p) with hnil | ⟨⟨index, on⟩, hone⟩
  · left
    rw [hnil, List.nil_append]
  · right
    exact ⟨index, on, by rw [hone, List.singleton_append]⟩

omit [PaintHost α σ] in
theorem Follows.selection (h : Follows p (signal op p) q) :
    q.1.selection = (p.1.toggle.next (signal op p)).selection := congrArg Toggle.selection h.toggle

theorem Follows.selection_tap (h : Follows p (signal op p) q) {index : Nat} {accepted : Bool}
    (htap : Tap p op index accepted) :
    q.1.selection = if accepted then p.1.selection.turned index else p.1.selection := by
  obtain ⟨hpressed, hsignal⟩ := signal_up_iff.mpr htap
  rw [h.selection, hsignal, Toggle.next_up_pressed hpressed]
  rfl

/-- A setter that has not failed. -/
inductive Sets (p : Play α σ) : SegmentOp α σ → Prop
  | items {items : List String} (done : ((setItems items).run p).1.isOk) : Sets p (.setItems items)
  | states {items : List String} {flags : List Bool}
      (done : ((setItemsWithStates items flags).run p).1.isOk) :
      Sets p (.setItemsWithStates items flags)
  | index {selected : Option Nat} (done : ((setSelectedIndex selected).run p).1.isOk) :
      Sets p (.setSelectedIndex selected)
  | state {index : Nat} {on : Bool} (done : ((setSelectedState index on).run p).1.isOk) :
      Sets p (.setSelectedState index on)

/-- A selection changes when it is set, by an accepted tap, and when everything is given back. -/
theorem Follows.selection_changed (h : Follows p (signal op p) q)
    (hne : q.1.selection ≠ p.1.selection) :
    Sets p op ∨ (∃ index, Tap p op index true) ∨ op = .destroy := by
  have horigin := signal_origin op p
  rw [h.selection] at hne
  rcases Toggle.next_selection hne with ⟨i, hpressed, hs⟩ | hs | ⟨_, hs⟩ | ⟨_, _, hs⟩ | ⟨_, hs⟩ |
    ⟨_, _, hs⟩
  · exact .inr (.inl ⟨i, signal_up_iff.mp ⟨hpressed, hs⟩⟩)
  all_goals rw [hs] at horigin
  · exact .inr (.inr horigin)
  · obtain ⟨rfl, hok⟩ := horigin
    exact .inl (.index hok)
  · obtain ⟨rfl, hok⟩ := horigin
    exact .inl (.state hok)
  · obtain ⟨⟨items, rfl⟩, hok⟩ := horigin
    exact .inl (.items hok)
  · obtain ⟨⟨items, rfl⟩, hok⟩ := horigin
    exact .inl (.states hok)

omit [PaintHost α σ] in
/-- One flag is set at a time. -/
theorem Follows.selection_flagged {index : Nat} {on : Bool}
    (h : Follows p (signal (.setSelectedState index on) p) q) {flags : List Bool}
    (hflags : p.1.selection = .multi flags) :
    ∃ flags', q.1.selection = .multi flags' ∧
      ∀ other, other ≠ index → flags'[other]? = flags[other]? := by
  rw [h.selection, signal, granted]
  split
  · refine ⟨flags.set index on, ?_, fun other hother => List.getElem?_set_ne hother.symm⟩
    change p.1.selection.flagged index on = _
    rw [hflags]
    rfl
  · exact ⟨flags, hflags, fun _ _ => rfl⟩

omit [PaintHost α σ] in
theorem Follows.released {point : Point} (h : Follows p (signal (.event (.pointerUp point)) p) q)
    (hd : ¬p.1.flags.has WidgetFlags.disabled) (hhit : ((hit point).run p).1.isOk) :
    q.1.pressed = none := by
  have hpressed : q.1.pressed = (p.1.toggle.next (signal (.event (.pointerUp point)) p)).pressed :=
    congrArg Toggle.pressed h.toggle
  rw [hpressed, signal, if_neg hd]
  rcases hrun : (hit point).run p with ⟨e | found, q⟩
  · rw [hrun] at hhit
    exact nomatch hhit
  · exact Toggle.next_up_not_pressed _ _ _

/-- Through every run of a group that a program brings about, and whatever the host and the
listener refuse, the group does what the machine does with the answers it gets. So its listener is
told of exactly the segments that are tapped, once each; a tap turns its segment if it is accepted,
and nothing if not; and apart from taps only a setter that succeeds changes the selection, and
`destroy`, which clears it even if it fails. -/
theorem selection_toggles (hp : Reachable Traced.hearSegment p) :
    (∀ ops : List (SegmentOp α σ), let q := afterAll p ops
      q.1.toggle = p.1.toggle.run (signals p ops) ∧
        q.2.segmentTaps = p.1.toggle.told (signals p ops) ++ p.2.segmentTaps) ∧
    ∀ op : SegmentOp α σ, let q := after p op
      ((∀ i on, q.2.segmentTaps = (i, on) :: p.2.segmentTaps ↔
          p.1.onSelect.isSome ∧ on = p.1.selection.turnsOn i ∧ ∃ accepted, Tap p op i accepted) ∧
        (q.2.segmentTaps = p.2.segmentTaps ∨
          ∃ i on, q.2.segmentTaps = (i, on) :: p.2.segmentTaps)) ∧
      (∀ i accepted, Tap p op i accepted →
        q.1.selection = if accepted then p.1.selection.turned i else p.1.selection) ∧
      (q.1.selection ≠ p.1.selection → Sets p op ∨ (∃ i, Tap p op i true) ∨ op = .destroy) ∧
      (op = .destroy → q.1.selection = p.1.selection.cleared) ∧
      (∀ i on, op = .setSelectedState i on → ∀ flags, p.1.selection = .multi flags →
        ∃ flags', q.1.selection = .multi flags' ∧ ∀ j, j ≠ i → flags'[j]? = flags[j]?) ∧
      ∀ point, op = .event (.pointerUp point) → ¬p.1.flags.has WidgetFlags.disabled →
        ((hit point).run p).1.isOk → q.1.pressed = none := by
  refine ⟨fun ops => refines_afterAll ops hp, fun op => ?_⟩
  have hf : Follows p (signal op p) (after p op) := hp.follows op
  refine ⟨⟨hf.told_iff, hf.told_at_most_once⟩, fun i accepted => hf.selection_tap,
    hf.selection_changed, ?_, ?_, ?_⟩
  · rintro rfl
    exact hf.selection
  · rintro i on rfl flags hflags
    exact hf.selection_flagged hflags
  · rintro point rfl hd hhit
    exact hf.released hd hhit

end Run

/-- Two segments share a width of 200, and the flag of the first one is on. -/
def twoSegments : HostM (Traced (Scripted Rat)) (SegmentGroup Rat (Traced (Scripted Rat))) :=
  create { SegmentStyle.default with text := .withFamily "Sans" } ["one", "two"]
    (.multi [true, false])

/-- A press on the second segment, whose listener will have none of it. -/
def rejectedPress : List (SegmentOp Rat (Scripted Rat)) :=
  [.setOnSelect (some fun _ _ => throw (.state .pressedTwice)), .layout ⟨0, 0, 200, 32⟩,
    .event (.pointerDown ⟨150, 10⟩)]

theorem selection_toggles_rejected : ∃ p : Play Rat (Scripted Rat),
    Reachable Traced.hearSegment p ∧ p.1.selection = .multi [true, false] ∧
      (after p (.event (.pointerUp ⟨160, 20⟩))).2.segmentTaps = [(1, true)] ∧
      Tap p (.event (.pointerUp ⟨160, 20⟩)) 1 false ∧
      (after p (.event (.pointerUp ⟨160, 20⟩))).1.selection = .multi [true, false] := by
  have hrun : (match twoSegments.run ⟨.start [], []⟩ with
      | (.ok group, t) =>
        let p := afterAll (group, t) rejectedPress
        let q := after p (.event (.pointerUp ⟨160, 20⟩))
        decide (p.1.selection = .multi [true, false] ∧ p.2.segmentTaps = [] ∧
          q.2.segmentTaps = [(1, true)] ∧ q.1.selection = .multi [true, false])
      | (.error _, _) => false) = true := by decide +kernel
  rcases hmake : twoSegments.run ⟨.start [], []⟩ with ⟨e | group, t⟩
  all_goals rw [hmake] at hrun
  · exact nomatch hrun
  obtain ⟨hflags, hnone, htold, hsame⟩ := of_decide_eq_true hrun
  have hp : Reachable Traced.hearSegment (afterAll (group, t) rejectedPress) :=
    .operated _ (.operated _ (.operated _ (.created hmake)))
  obtain ⟨⟨htaps, -⟩, hturned, -⟩ := (selection_toggles hp).2 (.event (.pointerUp ⟨160, 20⟩))
  obtain ⟨-, -, accepted, htap⟩ := (htaps 1 true).mp (by rw [htold, hnone])
  have haccepted : accepted = false := by
    cases accepted with
    | false => rfl
    | true =>
      have hflipped := hturned 1 true htap
      rw [hsame, hflags] at hflipped
      exact absurd hflipped (by decide)
  exact ⟨_, hp, hflags, htold, haccepted ▸ htap, hsame⟩

/-- The second of two segments is selected. -/
def secondSelected : HostM (Scripted Rat) (SegmentGroup Rat (Scripted Rat)) :=
  create { SegmentStyle.default with text := .withFamily "Sans" } ["one", "two"] (.single (some 1))

/-- The host refuses to destroy the font of a group, which gives up its selection all the same. -/
theorem destroy_refused_clears : ∃ group host e q,
    secondSelected.run (.start [false, true]) = (.ok group, host) ∧
      destroy.run (group, host) = (.error e, q) ∧
      group.selection = .single (some 1) ∧ q.1.selection = .single none := by
  have hrun : (match secondSelected.run (.start [false, true]) with
      | (.ok group, host) =>
        let out := (destroy : Step (SegmentGroup Rat (Scripted Rat)) _ _).run (group, host)
        decide (out.1.isOk = false ∧ group.selection = .single (some 1) ∧
          out.2.1.selection = .single none)
      | (.error _, _) => false) = true := by decide +kernel
  rcases hmake : secondSelected.run (.start [false, true]) with ⟨e | group, host⟩
  all_goals rw [hmake] at hrun
  · exact nomatch hrun
  obtain ⟨hfailed, hbefore, hafter⟩ := of_decide_eq_true hrun
  rcases hdestroy : destroy.run (group, host) with ⟨e | ⟨⟩, q⟩
  all_goals rw [hdestroy] at hfailed hafter
  · exact ⟨group, host, e, q, rfl, hdestroy, hbefore, hafter⟩
  · exact nomatch hfailed

end SegmentGroup

end Widgetry
