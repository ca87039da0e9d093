import Widgetry.Proofs.Host.Scripted
import Widgetry.Proofs.Segmented.Range
import Widgetry.Proofs.Tabs.Range

/-! No access by index is out of range. Each function that has one is written once more, with
accesses that stop the program when they fail, and turns out to be the function it was. -/
namespace Widgetry

/-- Computations that end alike are one. -/
theorem eq_of_ends {σ β : Type} {act act' : HostM σ β}
    (h : ∀ s post, Ends act s post ↔ Ends act' s post) : act = act' := by
  apply ExceptT.ext
  funext s
  exact ((h s fun r s' => act.run s = (r, s')).mp rfl)

/-- A computation that may stop for good, which no handler catches. -/
abbrev Checked (σ β : Type) := OptionT (HostM σ) β

namespace Checked

variable {σ β γ : Type}

/-- A computation that does not stop. -/
abbrev lift (act : HostM σ β) : Checked σ β := OptionT.lift act

/-- Goes on with `b?`, or stops. -/
def demand (b? : Option β) : Checked σ β := OptionT.mk (pure b?)

def get (list : List β) (index : Nat) : Checked σ β := demand list[index]?

def set (list : List β) (index : Nat) (b : β) : Checked σ (List β) :=
  demand (if index < list.length then some (list.set index b) else none)

def take (list : List β) (count : Nat) : Checked σ (List β) :=
  demand (if count ≤ list.length then some (list.take count) else none)

/-- The number before, if there is one. -/
def pred (count : Nat) : Checked σ Nat := demand (if 0 < count then some (count - 1) else none)

def catching (act : Checked σ β) (handler : Error → Checked σ β) : Checked σ β :=
  OptionT.mk (tryCatch act.run fun e => (handler e).run)

theorem get_eq {list : List β} {index : Nat} {b : β} (h : list[index]? = some b) :
    (get list index : Checked σ β) = pure b := by
  rw [get, h]
  rfl

theorem take_eq {list : List β} {count : Nat} (h : count ≤ list.length) :
    (take list count : Checked σ (List β)) = pure (list.take count) := by
  rw [take, if_pos h]
  rfl

theorem set_eq {list : List β} {index : Nat} (h : index < list.length) (b : β) :
    (set list index b : Checked σ (List β)) = pure (list.set index b) := by
  rw [set, if_pos h]
  rfl

theorem pred_eq {count : Nat} (h : 0 < count) :
    (pred count : Checked σ Nat) = pure (count - 1) := by
  rw [pred, if_pos h]
  rfl

theorem lift_pure (b : β) : lift (pure b : HostM σ β) = pure b := rfl

theorem lift_bind (act : HostM σ β) (f : β → HostM σ γ) :
    lift (act >>= f) = lift act >>= fun b => lift (f b) := by
  apply OptionT.ext
  simp

theorem lift_ite {c : Prop} [Decidable c] (act act' : HostM σ β) :
    lift (if c then act else act') = if c then lift act else lift act' := apply_ite _ _ _ _

/-- After a check, what follows may use that it has passed. -/
theorem bind_check {e : Except Error β} {f g : β → Checked σ γ}
    (h : ∀ b, e = .ok b → f b = g b) :
    (lift (liftExcept e) >>= f) = lift (liftExcept e) >>= g := by
  cases e with
  | error err => rfl
  | ok b =>
    change (pure b >>= f) = pure b >>= g
    rw [pure_bind, pure_bind, h b rfl]

theorem catching_lift (act : HostM σ β) (handler : Error → HostM σ β) :
    catching (lift act) (fun e => lift (handler e)) = lift (tryCatch act handler) := by
  apply OptionT.ext
  apply eq_of_ends
  intro s post
  change Ends (tryCatch (do let b ← act; pure (some b)) fun e => do
    let b ← handler e
    pure (some b)) s post ↔ Ends (do let b ← tryCatch act handler; pure (some b)) s post
  rw [ends_tryCatch, ends_bind, ends_bind, ends_tryCatch]
  rcases hrun : act.run s with ⟨e | b, s'⟩
  · rw [ends_of_run hrun, ends_of_run hrun]
    exact ends_bind _
  · rw [ends_of_run hrun, ends_of_run hrun]
    exact Iff.rfl

end Checked

namespace TabStyle

variable {α σ : Type} [Scalar α] (s : TabStyle α) (measurer : Measurer α σ) (items : List String)
  (l : TabLayout α)

/-- Start and width of the tab at an index, with the tabs before it taken and the tab itself read
by that index. -/
def itemSpanChecked (index : Nat) : Checked σ (α × α) :=
  match l.mode with
  | .fixed => pure (l.fixedOffset index, l.tabWidth)
  | .scrollable => do
    let before ← Checked.take items index
    let start ← Checked.lift (s.scrollableOffset measurer 0 before)
    let item ← Checked.get items index
    let width ← Checked.lift (s.itemWidth measurer item)
    return (start, width)

def indicatorTargetChecked (selected : Option Nat) : Checked σ (α × α) :=
  match selected with
  | none => pure (0, 0)
  | some index =>
    if items.length ≤ index then Checked.lift (throw (.range .selectedIndex))
    else do
      let (start, width) ← s.itemSpanChecked measurer items l index
      if start < 0 ∨ width < 0 then Checked.lift (throw (.range .indicatorGeometry))
      else return (start, width)

def itemRectChecked (index : Nat) (scroll : α) : Checked σ (Rect α) :=
  if items.length ≤ index then Checked.lift (throw (.range .tabIndex))
  else do
    let (start, width) ← s.itemSpanChecked measurer items l index
    let x := l.startX + start
    if width < 0 ∨ l.tabHeight < 0 then Checked.lift (throw (.range .tabRectangle))
    else
      return {
        x := match l.mode with
          | .fixed => x
          | .scrollable => x - scroll
        y := l.startY
        width
        height := l.tabHeight }

theorem itemSpanChecked_eq {index : Nat} {item : String} (hi : items[index]? = some item) :
    s.itemSpanChecked measurer items l index =
      Checked.lift (s.itemSpan measurer items l index item) := by
  unfold itemSpanChecked itemSpan
  cases l.mode with
  | fixed => rfl
  | scrollable =>
    obtain ⟨hlt, -⟩ := List.getElem?_eq_some_iff.mp hi
    dsimp only
    rw [Checked.take_eq (Nat.le_of_lt hlt), pure_bind, Checked.lift_bind, Checked.get_eq hi]
    simp only [pure_bind, Checked.lift_bind, Checked.lift_pure]

theorem indicatorTargetChecked_eq (selected : Option Nat) :
    s.indicatorTargetChecked measurer items l selected =
      Checked.lift (s.indicatorTarget measurer items l selected) := by
  unfold indicatorTargetChecked indicatorTarget
  cases selected with
  | none => rfl
  | some index =>
    dsimp only
    split
    next hi => rw [List.getElem?_eq_none hi]
    next hi =>
      have hitem := List.getElem?_eq_getElem (Nat.lt_of_not_le hi)
      rw [hitem, s.itemSpanChecked_eq measurer items l hitem, Checked.lift_bind]
      refine bind_congr fun span => ?_
      split <;> rfl

theorem itemRectChecked_eq (index : Nat) (scroll : α) :
    s.itemRectChecked measurer items l index scroll =
      Checked.lift (s.itemRect measurer items l index scroll) := by
  unfold itemRectChecked itemRect
  split
  next hi => rw [List.getElem?_eq_none hi]
  next hi =>
    have hitem := List.getElem?_eq_getElem (Nat.lt_of_not_le hi)
    rw [hitem, s.itemSpanChecked_eq measurer items l hitem, Checked.lift_bind]
    refine bind_congr fun span => ?_
    dsimp only
    split
    · rfl
    · cases l.mode <;> rfl

end TabStyle

variable {α σ τ : Type}

/-- Writes the flag back by its index. -/
def Selection.untappedChecked (before after : Selection) (index : Nat) (on : Bool) :
    Checked σ Selection :=
  match before, after with
  | single previous, single _ => pure (single previous)
  | multi _, multi flags => do return multi (← Checked.set flags index (!on))
  | _, _ => pure after

/-- The flag that was turned over is still there to be written. -/
theorem Selection.untappedChecked_eq {before after : Selection} {index : Nat} {on : Bool}
    (h : before.tapped index = .ok (after, on)) :
    (before.untappedChecked after index on : Checked σ Selection) =
      pure (before.untapped after index on) := by
  cases before with
  | single previous =>
    obtain ⟨rfl, -⟩ := Prod.mk.inj (Except.ok.inj h)
    rfl
  | multi flags =>
    obtain ⟨flag, hflag, rfl, rfl⟩ := exists_flag_of_tapped h
    have hin : index < (flags.set index !flag).length := by
      rw [List.length_set]
      exact (List.getElem?_eq_some_iff.mp hflag).1
    rw [untappedChecked, Checked.set_eq hin, pure_bind]
    rfl

namespace SegmentGroup

/-- Writes the flag by its index. -/
def setSelectedStateChecked (index : Nat) (on : Bool) : Checked (SegmentGroup α σ × σ) Unit := do
  let group ← Checked.lift (Step.self)
  match group.selection with
  | .multi flags =>
    if group.items.length ≤ index then Checked.lift (throw (.range .segmentIndex))
    else do
      Checked.lift (Step.check (Validate.states flags group.items.length))
      let flags ← Checked.set flags index on
      Checked.lift (Step.update fun group => { group with selection := .multi flags })
  | .single _ => Checked.lift (throw (.state .needsMultiMode))

/-- Reads the flag by its index. -/
def selectedStateChecked (group : SegmentGroup α σ) (index : Nat) : Checked τ Bool :=
  match group.selection with
  | .multi flags =>
    if group.items.length ≤ index then Checked.lift (throw (.range .segmentIndex))
    else do
      Checked.lift (liftExcept (Validate.states flags group.items.length))
      Checked.get flags index
  | .single _ => Checked.lift (throw (.state .needsMultiMode))

/-- Writes the flag back by its index when the listener rejects the tap. -/
def commitChecked (index : Nat) : Checked (SegmentGroup α σ × σ) Unit := do
  let group ← Checked.lift (Step.self)
  let (selection, on) ← Checked.lift
    (Step.check (group.selection.tapped index))
  Checked.lift (Step.update fun group => { group with selection })
  match group.onSelect with
  | none => pure ()
  | some listener =>
    Checked.catching (Checked.lift (Step.host (listener index on)))
      fun e => do
        let selection ← group.selection.untappedChecked selection index on
        Checked.lift (Step.update fun group => { group with selection })
        Checked.lift (throw e)

theorem setSelectedStateChecked_eq (index : Nat) (on : Bool) :
    setSelectedStateChecked index on =
      Checked.lift (setSelectedState index on : Step (SegmentGroup α σ) σ Unit) := by
  rw [setSelectedStateChecked, setSelectedState, Checked.lift_bind]
  refine bind_congr fun group => ?_
  cases group.selection with
  | single selected => rfl
  | multi flags =>
    dsimp only
    rw [Checked.lift_ite]
    split
    · rfl
    next hi =>
      rw [Checked.lift_bind]
      refine Checked.bind_check fun _ hstates => ?_
      have hlt : index < flags.length := by
        rw [Validate.states_eq_ok.mp hstates]
        exact Nat.lt_of_not_le hi
      rw [Checked.set_eq hlt, pure_bind]

theorem selectedStateChecked_eq (group : SegmentGroup α σ) (index : Nat) :
    (group.selectedStateChecked index : Checked τ Bool) =
      Checked.lift (liftExcept (group.selectedState index)) := by
  rw [selectedStateChecked, selectedState]
  cases group.selection with
  | single selected => rfl
  | multi flags =>
    dsimp only
    split
    · rfl
    next hi =>
      cases hstates : Validate.states flags group.items.length with
      | error e => rfl
      | ok _ =>
        have hlt : index < flags.length := by
          rw [Validate.states_eq_ok.mp hstates]
          exact Nat.lt_of_not_le hi
        have hflag := List.getElem?_eq_getElem hlt
        dsimp only
        rw [List.getD_eq_getElem?_getD, hflag, Checked.get_eq hflag]
        rfl

theorem commitChecked_eq (index : Nat) :
    commitChecked index = Checked.lift (commit index : Step (SegmentGroup α σ) σ Unit) := by
  rw [commitChecked, commit, Checked.lift_bind]
  refine bind_congr fun group => ?_
  rw [Checked.lift_bind]
  refine Checked.bind_check ?_
  rintro ⟨selection, on⟩ htapped
  dsimp only
  rw [Checked.lift_bind]
  refine bind_congr fun _ => ?_
  cases group.onSelect with
  | none => rfl
  | some listener =>
    dsimp only
    rw [← Checked.catching_lift]
    congr 1
    funext e
    rw [Selection.untappedChecked_eq htapped, pure_bind, Checked.lift_bind]

variable [Scalar α]

section Paint

variable [TextHost α σ] [PaintHost α σ]

/-- Draws segments from an index on; `last` is the index of the last one. -/
def paintUpTo (group : SegmentGroup α σ) (font : FontHandle) (layout : SegmentLayout α)
    (last index : Nat) : List String → HostM σ Unit
  | [] => pure ()
  | item :: rest => do
    group.paintSegment font layout index (index == last) item
    group.paintUpTo font layout last (index + 1) rest

theorem paintUpTo_eq (group : SegmentGroup α σ) (font : FontHandle) (layout : SegmentLayout α)
    (index : Nat) (items : List String) :
    group.paintUpTo font layout (index + items.length - 1) index items =
      group.paintSegments font layout index items := by
  induction items generalizing index with
  | nil => rfl
  | cons item rest ih =>
    have hlast : (index == index + (item :: rest).length - 1) = rest.isEmpty := by
      cases rest with
      | nil => simp
      | cons next rest => simp
    have hrest : index + (item :: rest).length - 1 = index + 1 + rest.length - 1 := by
      rw [List.length_cons]
      omega
    rw [paintUpTo, paintSegments, hlast, hrest, ih]

/-- Counts the segments to know the last one. -/
def paintChecked : Checked (SegmentGroup α σ × σ) Unit := do
  let layout ← Checked.lift currentLayout
  let group ← Checked.lift Step.self
  let font ← Checked.lift (Step.check group.font.handle)
  if group.items.isEmpty then pure ()
  else do
    let last ← Checked.pred group.items.length
    Checked.lift (Step.host (group.paintUpTo font layout last 0 group.items))

theorem paintChecked_eq :
    paintChecked = Checked.lift (paint : Step (SegmentGroup α σ) σ Unit) := by
  rw [paintChecked, paint, Checked.lift_bind]
  refine bind_congr fun layout => ?_
  rw [Checked.lift_bind]
  refine bind_congr fun group => ?_
  rw [Checked.lift_bind]
  refine bind_congr fun font => ?_
  split
  next hempty =>
    rw [List.isEmpty_iff.mp hempty]
    rfl
  next hsome =>
    have hpos : 0 < group.items.length := by
      rw [List.length_pos_iff]
      exact fun hnil => hsome (by rw [hnil]; rfl)
    rw [Checked.pred_eq hpos, pure_bind, ← group.paintUpTo_eq, Nat.zero_add]

end Paint

end SegmentGroup

variable {χ : Type} [Scalar α] [TextHost α τ] [PaintHost α τ] [Channel α τ χ]

/-- Whatever a program has done to a row or a group, and whatever has failed on the way, selection
and press address an item, and there is one flag for each. So the check before a pointer event
passes, and no access by index stops the program. -/
theorem indices_in_range (hearTab : TabListener σ → TabListener τ)
    (hearSegment : SegmentListener σ → SegmentListener τ) :
    ((∀ p : TabRow α τ χ × τ, TabRow.Reachable hearTab p → p.1.InRange) ∧
      ∀ p : SegmentGroup α τ × τ, SegmentGroup.Reachable hearSegment p → p.1.InRange ∧
        Ends SegmentGroup.checkSelection p fun r q => r = .ok () ∧ q = p) ∧
    (∀ (pos width spacing : α) (count : Nat) (index : Option Nat),
      Row.uniformHit pos width spacing count = .ok index → Fits count index) ∧
    (∀ (s : TabStyle α) (measurer : Measurer α τ) (items : List String) (l : TabLayout α),
      (∀ selected, s.indicatorTargetChecked measurer items l selected =
        Checked.lift (s.indicatorTarget measurer items l selected)) ∧
      ∀ index scroll, s.itemRectChecked measurer items l index scroll =
        Checked.lift (s.itemRect measurer items l index scroll)) ∧
    (∀ (index : Nat) (on : Bool), SegmentGroup.setSelectedStateChecked index on =
      Checked.lift (SegmentGroup.setSelectedState index on : Step (SegmentGroup α τ) τ Unit)) ∧
    (∀ (group : SegmentGroup α τ) (index : Nat),
      (group.selectedStateChecked index : Checked Unit Bool) =
        Checked.lift (liftExcept (group.selectedState index))) ∧
    (∀ index : Nat, SegmentGroup.commitChecked index =
      Checked.lift (SegmentGroup.commit index : Step (SegmentGroup α τ) τ Unit)) ∧
    SegmentGroup.paintChecked =
      Checked.lift (SegmentGroup.paint : Step (SegmentGroup α τ) τ Unit) :=
  ⟨⟨fun _ hp => hp.inRange, fun _ hp => ⟨hp.inRange, SegmentGroup.ends_checkSelection hp.inRange⟩⟩,
    fun _ _ _ _ _ => Row.fits_uniformHit,
    fun s measurer items l => ⟨s.indicatorTargetChecked_eq measurer items l,
      s.itemRectChecked_eq measurer items l⟩,
    SegmentGroup.setSelectedStateChecked_eq, SegmentGroup.selectedStateChecked_eq,
    SegmentGroup.commitChecked_eq, SegmentGroup.paintChecked_eq⟩

/-- The last of three tabs is selected. -/
def threeTabs : HostM (Scripted Rat) (TabRow Rat (Scripted Rat) (Timing Rat)) :=
  TabRow.create { TabStyle.default with text := .withFamily "Sans" } ["one", "two", "three"]
    (some 2) .idle .idle

/-- The second of two flags is on. -/
def twoFlags : HostM (Scripted Rat) (SegmentGroup Rat (Scripted Rat)) :=
  SegmentGroup.create { SegmentStyle.default with text := .withFamily "Sans" } ["one", "two"]
    (.multi [false, true])

/-- A row that loses the tab of its selection, and a group that keeps its segments because there
are too few flags for the new ones. -/
theorem indices_in_range_replaced :
    (∃ p : TabRow Rat (Scripted Rat) (Timing Rat) × Scripted Rat,
      TabRow.Reachable id p ∧ p.1.items.length = 2 ∧ p.1.selected = none ∧ p.1.InRange) ∧
    ∃ g : SegmentGroup Rat (Scripted Rat) × Scripted Rat,
      SegmentGroup.Reachable id g ∧ g.1.selection = .multi [false, true] ∧ g.1.InRange := by
  have hrow : (match threeTabs.run (.start []) with
      | (.ok row, host) =>
        let q := (((TabOp.setItems ["one", "two"]).run id).run (row, host)).2
        decide (q.1.items.length = 2 ∧ q.1.selected = none)
      | (.error _, _) => false) = true := by decide +kernel
  have hgroup : (match twoFlags.run (.start []) with
      | (.ok group, host) =>
        let q := (((SegmentOp.setItems ["one", "two", "three"]).run id).run (group, host)).2
        decide (q.1.selection = .multi [false, true])
      | (.error _, _) => false) = true := by decide +kernel
  have hrange := @indices_in_range Rat (Scripted Rat) (Scripted Rat) (Timing Rat) _ _ _ _ id id
  constructor
  · rcases hmake : threeTabs.run (.start []) with ⟨e | row, host⟩
    all_goals rw [hmake] at hrow
    · exact nomatch hrow
    obtain ⟨hitems, hselected⟩ := of_decide_eq_true hrow
    have hp : TabRow.Reachable id _ := .operated (.setItems ["one", "two"]) (.created hmake)
    exact ⟨_, hp, hitems, hselected, hrange.1.1 _ hp⟩
  · rcases hmake : twoFlags.run (.start []) with ⟨e | group, host⟩
    all_goals rw [hmake] at hgroup
    · exact nomatch hgroup
    have hg : SegmentGroup.Reachable id _ :=
      .operated (.setItems ["one", "two", "three"]) (.created hmake)
    exact ⟨_, hg, of_decide_eq_true hgroup, (hrange.1.2 _ hg).1⟩

end Widgetry
