import Widgetry.Proofs.Host.Holding
import Widgetry.Proofs.Host.Trace
import Widgetry.Proofs.Tabs.Core

/-! What each operation of a tab row makes of its selection, its press and its listener. A row
writes a selection first and takes it back when the indicator or the listener refuses it. -/
namespace Widgetry

open Step (At)

namespace TabRow

variable {α σ χ β : Type}

/-- A row on a host that keeps a record. -/
abbrev Play (α σ χ : Type) := TabRow α (Traced σ) (Silent χ) × Traced σ

/-- The selection, the press and the listener. -/
def pick (row : TabRow α σ χ) : Option Nat × Option Nat × Option (TabListener σ) :=
  (row.selected, row.pressed, row.onSelect)

theorem of_pick {row row' : TabRow α σ χ} (h : row'.pick = row.pick) :
    row'.selected = row.selected ∧ row'.pressed = row.pressed ∧ row'.onSelect = row.onSelect := by
  simpa only [pick, Prod.mk.injEq] using h

/-- The listener was told of these taps. -/
def Told (taps : List Nat) (t : Traced σ) : Prop := t.tabTaps = taps

/-- Selection, press and listener are as in `row`, and no tap was told of since `taps`. -/
abbrev Still (row : TabRow α (Traced σ) (Silent χ)) (taps : List Nat) : Play α σ χ → Prop :=
  At pick row.pick (Told taps)

variable {row : TabRow α (Traced σ) (Silent χ)} {taps : List Nat}

theorem still_of_core {act : Step (TabRow α (Traced σ) (Silent χ)) (Traced σ) β}
    (h : ∀ c, Keeps (At core c (Told taps)) act) : Keeps (Still row taps) act := by
  rintro p ⟨hpick, ht⟩
  apply (h p.1.core).ends ⟨rfl, ht⟩
  rintro r q ⟨hcore, hq⟩
  refine ⟨?_, hq⟩
  have hs : q.1.selected = p.1.selected := congrArg TabCore.selected hcore
  have hp : q.1.pressed = p.1.pressed := congrArg TabCore.pressed hcore
  have hl : q.1.onSelect = p.1.onSelect := congrArg TabCore.onSelect hcore
  rw [← hpick, pick, hs, hp, hl, pick]

variable [TextHost α σ]

theorem told_createFont (style : TextStyle α) :
    Keeps (Told taps : Traced σ → Prop) (TextHost.createFont style) :=
  Traced.keeps_call fun t _ r h => by cases r <;> exact h

theorem told_destroyFont (font : FontHandle) :
    Keeps (Told taps : Traced σ → Prop) (TextHost.destroyFont font) :=
  Traced.keeps_call fun t _ r h => by cases r <;> exact h

variable [Channel α σ χ]

/-- Nothing that a row asks of its host is a tap. -/
theorem calls_told (font : OwnedFont) : Calls (Silent χ) font (Told taps : Traced σ → Prop) where
  measureText _ _ _ := fun _ h => h
  begin _ _ _ _ := fun _ h => h
  step _ := fun _ h => h
  value := fun _ h => h

variable [Scalar α] {p : Play α σ χ}

theorem still_syncIndicator (layout : TabLayout α) (animate : Bool) :
    Keeps (Still row taps) (syncIndicator layout animate :
      Step (TabRow α (Traced σ) (Silent χ)) (Traced σ) Unit) :=
  still_of_core fun c => keeps_syncIndicator (calls_told c.font) layout animate

theorem still_resnap : Keeps (Still row taps)
    (resnap : Step (TabRow α (Traced σ) (Silent χ)) (Traced σ) Unit) :=
  still_of_core fun c => keeps_resnap (calls_told c.font)

theorem still_currentLayout : Keeps (Still row taps)
    (currentLayout : Step (TabRow α (Traced σ) (Silent χ)) (Traced σ) (TabLayout α)) :=
  still_of_core fun c => keeps_currentLayout (calls_told c.font)

theorem still_hit (point : Point) : Keeps (Still row taps) (hit point :
    Step (TabRow α (Traced σ) (Silent χ)) (Traced σ) (TabLayout α × Option Nat)) :=
  still_of_core fun c => keeps_hit (calls_told c.font) point

/-- The way back never fails. -/
theorem ends_rollBack (previous : Option Nat) (layout : TabLayout α) {t : Traced σ} :
    Ends (rollBack previous layout) (row, t) fun r q =>
      r = .ok () ∧ q.1.pick = (previous, row.pressed, row.onSelect) ∧ q.2.tabTaps = t.tabTaps := by
  rw [rollBack, ends_bind, Step.ends_update, ends_tryCatch]
  apply (still_syncIndicator layout false ({ row with selected := previous }, t) ⟨rfl, rfl⟩).imp
  rintro (e | ⟨⟩) q ⟨hpick, htaps⟩
  · exact ⟨rfl, hpick, htaps⟩
  · exact ⟨rfl, hpick, htaps⟩

/-- A selection stays only if the indicator settles on it and it is accepted. -/
theorem ends_selectOrRollBack {selected : Option Nat} {layout : TabLayout α}
    {accept : Step (TabRow α (Traced σ) (Silent χ)) (Traced σ) Unit} {t : Traced σ}
    (post : Except Error Unit → List Nat → Prop)
    (hrefused : ∀ e q, (syncIndicator layout true).run ({ row with selected }, t) = (.error e, q) →
      post (.error e) t.tabTaps)
    (hsettled : ∀ q, (syncIndicator layout true).run ({ row with selected }, t) = (.ok (), q) →
      q.1.pick = (selected, row.pressed, row.onSelect) → q.2.tabTaps = t.tabTaps →
      Ends accept q fun r q' => q'.1.pick = q.1.pick ∧ post r q'.2.tabTaps) :
    Ends (selectOrRollBack selected layout accept) (row, t) fun r q =>
      q.1.pick = (if r.isOk then selected else row.selected, row.pressed, row.onSelect) ∧
        post r q.2.tabTaps := by
  have hsync := still_syncIndicator layout true ({ row with selected }, t) ⟨rfl, rfl⟩
  have hbody : Ends (do syncIndicator layout true; accept) ({ row with selected }, t) fun r q =>
      q.1.pick = (selected, row.pressed, row.onSelect) ∧ post r q.2.tabTaps := by
    rw [ends_bind]
    rcases hrun : (syncIndicator layout true).run ({ row with selected }, t) with ⟨e | ⟨⟩, q⟩
    · rw [ends_of_run hrun] at hsync ⊢
      obtain ⟨hpick, htaps⟩ := hsync
      refine ⟨hpick, ?_⟩
      rw [htaps]
      exact hrefused e q hrun
    · rw [ends_of_run hrun] at hsync ⊢
      obtain ⟨hpick, htaps⟩ := hsync
      apply (hsettled q hrun hpick htaps).imp
      rintro r q' ⟨hq, hpost⟩
      exact ⟨hq.trans hpick, hpost⟩
  rw [selectOrRollBack, ends_bind, Step.ends_self]
  dsimp only
  rw [ends_bind, Step.ends_update]
  refine hbody.tryCatch (fun ⟨⟩ q hq => hq) ?_
  rintro e ⟨row', t'⟩ ⟨hpick, hpost⟩
  rw [ends_bind]
  apply (ends_rollBack row.selected layout).imp
  rintro _ q ⟨rfl, hq, htaps⟩
  have hsame := congrArg Prod.snd hpick
  simp only [pick, Prod.mk.injEq] at hsame
  dsimp only
  rw [ends_throw]
  refine ⟨?_, ?_⟩
  · rw [hq, hsame.1, hsame.2]
    rfl
  · rwa [htaps]

/-- A selection that cannot be set is not set. -/
theorem ends_setSelected (selected : Option Nat) {t : Traced σ} :
    Ends (setSelected selected) (row, t) fun r q =>
      q.1.pick = (if r.isOk then selected else row.selected, row.pressed, row.onSelect) ∧
        q.2.tabTaps = t.tabTaps := by
  rw [setSelected, ends_bind, Step.ends_self]
  refine .of_check (fun _ _ => ?_) fun _ _ => ⟨rfl, rfl⟩
  split
  · exact ⟨rfl, rfl⟩
  · refine Ends.bind (still_currentLayout (row, t) ⟨rfl, rfl⟩) ?_ fun _ _ h => h
    rintro layout ⟨row', t'⟩ ⟨hpick, htaps⟩
    have hsame := of_pick hpick
    have hpure : ∀ q : Play α σ χ, q.2.tabTaps = t'.tabTaps →
        Ends (pure () : Step (TabRow α (Traced σ) (Silent χ)) (Traced σ) Unit) q fun _ q' =>
          q'.1.pick = q.1.pick ∧ q'.2.tabTaps = t'.tabTaps := fun _ hq => ⟨rfl, hq⟩
    refine (ends_selectOrRollBack (fun _ taps => taps = t'.tabTaps) (fun _ _ _ => rfl)
      fun q _ _ hq => hpure q hq).imp ?_
    rintro r q ⟨hq, hqt⟩
    rw [hsame.1, hsame.2.1, hsame.2.2] at hq
    exact ⟨hq, hqt.trans htaps⟩

/-- Items that cannot be set leave selection and press alone. -/
theorem ends_setItems (items : List String) {t : Traced σ} :
    Ends (setItems items) (row, t) fun r q =>
      q.1.pick = (if r.isOk then Validate.inRange items.length row.selected else row.selected,
          if r.isOk then Validate.inRange items.length row.pressed else row.pressed,
          row.onSelect) ∧
        q.2.tabTaps = t.tabTaps := by
  rw [ends_setItems_iff]
  split
  · exact ⟨rfl, rfl⟩
  · apply (still_resnap _ ⟨rfl, rfl⟩).imp
    rintro (e | ⟨⟩) ⟨row', t'⟩ ⟨hpick, htaps⟩
    · have hlisten : row'.onSelect = row.onSelect := congrArg (fun pick => pick.2.2) hpick
      apply (still_resnap _ ⟨rfl, rfl⟩).imp
      rintro _ q ⟨hq, hqt⟩
      refine ⟨hq.trans ?_, hqt.trans htaps⟩
      rw [pick, restore, hlisten]
      rfl
    · exact ⟨hpick, htaps⟩

/-- A press is taken where the pointer went down, unless another one is pending. -/
theorem ends_onPointerDown {point : Point} {layout : TabLayout α} {index : Option Nat}
    {t : Traced σ} {q : Play α σ χ} (hhit : (hit point).run (row, t) = (.ok (layout, index), q)) :
    Ends (onPointerDown point) (row, t) fun _ q =>
      q.1.pick = (row.selected, if row.pressed.isSome then row.pressed else index, row.onSelect) ∧
        q.2.tabTaps = t.tabTaps := by
  have hstill := still_hit point (row, t) ⟨rfl, rfl⟩
  rw [ends_of_run hhit] at hstill
  obtain ⟨hpick, htaps⟩ := hstill
  obtain ⟨hs, hp, hl⟩ := of_pick hpick
  rw [onPointerDown, ends_bind, ends_of_run hhit]
  dsimp only
  rw [ends_bind, Step.ends_self, ← hp, ← hs, ← hl]
  dsimp only
  split
  · exact ⟨rfl, htaps⟩
  next hnone =>
    cases index with
    | none =>
      rw [Option.not_isSome_iff_eq_none] at hnone
      refine ⟨?_, htaps⟩
      change q.1.pick = _
      rw [pick, hnone]
    | some index => exact ⟨rfl, htaps⟩

/-- How the indicator takes it that a tab is selected. -/
def settling (layout : TabLayout α) (index : Nat) (p : Play α σ χ) :
    Except Error Unit × Play α σ χ :=
  (syncIndicator layout true).run ({ p.1 with selected := some index }, p.2)

def settles (layout : TabLayout α) (index : Nat) (p : Play α σ χ) : Bool :=
  (settling layout index p).1.isOk

/-- What the listener, if there is one, answers once the indicator has settled. -/
def accepts (layout : TabLayout α) (index : Nat) (p : Play α σ χ) : Bool :=
  match p.1.onSelect with
  | some listener => ((listener index).run (settling layout index p).2.2).1.isOk
  | none => true

/-- The listener is asked once, about a tab on which the indicator has settled. -/
theorem ends_commit (index : Nat) (layout : TabLayout α) {t : Traced σ}
    {listener : Option (TabListener σ)} (hl : row.onSelect = listener.map Traced.hearTab) :
    Ends (commit index layout) (row, t) fun r q =>
      q.1.pick = (if r.isOk then some index else row.selected, row.pressed, row.onSelect) ∧
        r.isOk = (settles layout index (row, t) && accepts layout index (row, t)) ∧
        q.2.tabTaps =
          (if row.onSelect.isSome ∧ settles layout index (row, t) then [index] else []) ++
            t.tabTaps := by
  rw [commit, ends_bind, Step.ends_self]
  dsimp only
  refine ends_selectOrRollBack (fun r taps =>
    r.isOk = (settles layout index (row, t) && accepts layout index (row, t)) ∧
      taps = (if row.onSelect.isSome ∧ settles layout index (row, t) then [index] else []) ++
        t.tabTaps) ?_ ?_
  · intro e q hrun
    have hs : settles layout index (row, t) = false := congrArg (fun out => out.1.isOk) hrun
    simp [hs, Except.isOk, Except.toBool]
  · intro q hrun hpick htaps
    have hs : settles layout index (row, t) = true := congrArg (fun out => out.1.isOk) hrun
    have ha : (settling layout index (row, t)).2 = q := congrArg (fun out => out.2) hrun
    rw [hs, hl]
    cases listener with
    | none =>
      have hacc : accepts layout index (row, t) = true := by simp [accepts, hl]
      exact ⟨rfl, by rw [hacc]; rfl, htaps⟩
    | some listener =>
      change Ends (Step.host (Traced.hearTab listener index)) q _
      rw [Step.ends_host]
      apply (Traced.ends_call _ _).mpr
      apply (ends_run _ _).imp
      intro r host hrun'
      have hacc : accepts layout index (row, t) = r.isOk := by
        have hhear : ((Traced.hearTab listener index).run q.2).1 = r := congrArg Prod.fst hrun'
        simp only [accepts, hl, Option.map_some, ha, hhear]
      refine ⟨rfl, ?_, ?_⟩
      · rw [hacc, Bool.true_and]
      · rw [← htaps]
        rfl

end TabRow

end Widgetry
