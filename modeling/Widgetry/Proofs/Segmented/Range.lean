import Widgetry.Proofs.Range
import Widgetry.Proofs.Reachable
import Widgetry.Proofs.Segmented.Frame

/-! Selection and press of a group always address its segments, and there is one flag for each. So
the check before a pointer event never fails. -/
namespace Widgetry

open Step (At)

variable {α σ τ β : Type}

namespace Selection

/-- An index of one of `count` segments, or one flag for each. -/
def Ranged (count : Nat) : Selection → Prop
  | single index => Fits count index
  | multi flags => flags.length = count

variable {count : Nat} {s : Selection}

theorem validate_eq_ok (hs : s.Ranged count) : s.validate count = .ok () := by
  cases s with
  | single index => exact Validate.selection_eq_ok hs
  | multi flags => exact Validate.states_eq_ok.mpr hs

theorem ranged_of_validate (h : s.validate count = .ok ()) : s.Ranged count := by
  cases s with
  | single index => exact Validate.fits_of_selection h
  | multi flags => exact Validate.states_eq_ok.mp h

theorem Ranged.tapped {s' : Selection} {index : Nat} {on : Bool} (hs : s.Ranged count)
    (hi : index < count) (h : s.tapped index = .ok (s', on)) : s'.Ranged count := by
  cases s with
  | single selected =>
    obtain ⟨rfl, -⟩ := Prod.mk.inj (Except.ok.inj h)
    exact fits_some hi
  | multi flags =>
    obtain ⟨flag, -, rfl, -⟩ := exists_flag_of_tapped h
    exact List.length_set.trans hs

end Selection

variable [Scalar α]

theorem SegmentLayout.fits_hitTest {l : SegmentLayout α} {count : Nat} {x y : α}
    {index : Option Nat} (h : l.hitTest count x y = .ok index) : Fits count index := by
  rw [hitTest] at h
  split at h
  · obtain rfl := Except.ok.inj h
    exact fits_none _
  split at h
  · obtain rfl := Except.ok.inj h
    exact fits_none _
  split at h
  · obtain rfl := Except.ok.inj h
    exact fits_none _
  · exact Row.fits_uniformHit h

namespace SegmentGroup

/-- `count` segments, which selection and press address. -/
structure Ranged (count : Nat) (group : SegmentGroup α τ) : Prop where
  items : group.items.length = count
  selection : group.selection.Ranged count
  pressed : Fits count group.pressed

def InRange (group : SegmentGroup α τ) : Prop := Ranged group.items.length group

variable {group : SegmentGroup α τ} {count : Nat} {t : τ}

omit [Scalar α] in
theorem Ranged.inRange (hr : Ranged count group) : group.InRange := by
  obtain rfl := hr.items
  exact hr

omit [Scalar α] in
/-- Steps that leave the group as it is. -/
theorem keeps_ranged {act : Step (SegmentGroup α τ) τ β}
    (ha : ∀ group, Keeps (At id group fun _ => True) act) :
    Keeps (fun p => Ranged count p.1) act := by
  intro p hp
  apply (ha p.1).ends ⟨rfl, trivial⟩
  rintro r q ⟨hq, -⟩
  rw [show q.1 = p.1 from hq]
  exact hp

omit [Scalar α] in
theorem keeps_inRange {act : Step (SegmentGroup α τ) τ β}
    (ha : ∀ count, Keeps (fun p => Ranged count p.1) act) :
    Keeps (fun p => InRange p.1) act := by
  intro p hp
  exact (ha p.1.items.length).ends hp fun _ _ hq => hq.inRange

omit [Scalar α] in
/-- The check before a pointer event. -/
theorem ends_checkSelection (hg : group.InRange) :
    Ends checkSelection (group, t) fun r q => r = .ok () ∧ q = (group, t) := by
  rw [checkSelection, ends_bind, Step.ends_self]
  dsimp only
  rw [Step.ends_check]
  exact ⟨Selection.validate_eq_ok hg.selection, rfl⟩

omit [Scalar α] in
theorem inRange_setItems (items : List String) :
    Keeps (fun p => InRange p.1) (setItems items : Step (SegmentGroup α τ) τ Unit) := by
  have hwrite (selection : Selection) (hs : selection.Ranged items.length) :
      Keeps (fun p : SegmentGroup α τ × τ => InRange p.1) (Step.update fun group =>
        { group with items, selection, pressed := Validate.inRange items.length group.pressed }) :=
    Step.keeps_update fun _ _ _ => ⟨rfl, hs, Validate.fits_inRange _ _⟩
  refine Step.keeps_self_bind fun group _ _ => ?_
  split
  · exact keeps_liftExcept_bind fun _ hstates => hwrite _ (Validate.states_eq_ok.mp hstates)
  · exact hwrite _ (Validate.fits_inRange _ _)

omit [Scalar α] in
theorem inRange_setItemsWithStates (items : List String) (flags : List Bool) :
    Keeps (fun p => InRange p.1)
      (setItemsWithStates items flags : Step (SegmentGroup α τ) τ Unit) := by
  refine Step.keeps_self_bind fun group _ _ => ?_
  split
  · exact .throw _
  · refine keeps_liftExcept_bind fun _ hstates => Step.keeps_update fun _ _ _ => ?_
    exact ⟨rfl, Validate.states_eq_ok.mp hstates, Validate.fits_inRange _ _⟩

omit [Scalar α] in
theorem ranged_setSelectedIndex (selected : Option Nat) :
    Keeps (fun p => Ranged count p.1)
      (setSelectedIndex selected : Step (SegmentGroup α τ) τ Unit) := by
  refine Step.keeps_self_bind fun group _ hg => ?_
  split
  · refine keeps_liftExcept_bind fun _ hs => Step.keeps_update fun _ _ hr => ?_
    exact ⟨hr.items, hg.items ▸ Validate.fits_of_selection hs, hr.pressed⟩
  · exact .throw _

omit [Scalar α] in
theorem ranged_setSelectedState (index : Nat) (on : Bool) :
    Keeps (fun p => Ranged count p.1)
      (setSelectedState index on : Step (SegmentGroup α τ) τ Unit) := by
  refine Step.keeps_self_bind fun group _ hg => ?_
  split
  · refine .ite (fun _ => .throw _) fun _ => ?_
    refine keeps_liftExcept_bind fun _ hstates => Step.keeps_update fun _ _ hr => ?_
    refine ⟨hr.items, ?_, hr.pressed⟩
    exact List.length_set.trans ((Validate.states_eq_ok.mp hstates).trans hg.items)
  · exact .throw _

omit [Scalar α] in
theorem ranged_commit {index : Nat} (hi : index < count) :
    Keeps (fun p => Ranged count p.1) (commit index : Step (SegmentGroup α τ) τ Unit) := by
  refine Step.keeps_self_bind fun group _ hg => keeps_liftExcept_bind fun turned hturned => ?_
  obtain ⟨selection, on⟩ := turned
  have hselection : selection.Ranged count := hg.selection.tapped hi hturned
  refine Keeps.bind (Step.keeps_update fun _ _ hr => ⟨hr.items, hselection, hr.pressed⟩) fun _ => ?_
  split
  · exact .pure _
  · refine (Step.keeps_host fun _ _ hr => hr).tryCatch fun e => ?_
    refine Keeps.bind (Step.keeps_update fun _ _ hr => ?_) fun _ => .throw e
    exact ⟨hr.items, (Selection.untapped_eq hturned).symm ▸ hg.selection, hr.pressed⟩

omit [Scalar α] in
theorem ranged_release :
    Keeps (fun p => Ranged count p.1) (release : Step (SegmentGroup α τ) τ Unit) :=
  Step.keeps_update fun _ _ hr => ⟨hr.items, hr.selection, fits_none _⟩

omit [Scalar α] in
theorem ranged_onFont (act : Step OwnedFont τ Unit) :
    Keeps (fun p => Ranged count p.1) (onFont act : Step (SegmentGroup α τ) τ Unit) := by
  refine Step.keeps_zoom (fun _ => rfl) fun group p hp => ?_
  exact (ends_run act p).imp fun _ _ _ => ⟨hp.items, hp.selection, hp.pressed⟩

variable [TextHost α τ]

omit [Scalar α] in
theorem measures_true (font : OwnedFont) : font.Measures α (fun _ : τ => True) :=
  fun _ _ _ => .of_true _

theorem ends_hit_fits (point : Point) (hg : Ranged count group) :
    Ends (hit point) (group, t) fun r q => q.1 = group ∧ ∀ index, r = .ok index →
      Fits count index := by
  rw [hit]
  refine (keeps_currentLayout (measures_true _) (group, t) ⟨rfl, trivial⟩).bind ?_ ?_
  · rintro layout q ⟨hq, -⟩
    obtain rfl : q.1 = group := hq
    rw [ends_bind, Step.ends_self]
    dsimp only
    rw [Step.ends_check]
    exact ⟨rfl, fun _ hindex => hg.items ▸ SegmentLayout.fits_hitTest hindex⟩
  · rintro e q ⟨hq, -⟩
    exact ⟨hq, fun _ hr => (error_ne_ok hr).elim⟩

theorem ranged_onPointerDown (point : Point) :
    Keeps (fun p => Ranged count p.1) (onPointerDown point : Step (SegmentGroup α τ) τ Bool) := by
  rintro ⟨group, t⟩ (hg : Ranged count group)
  rw [onPointerDown]
  refine (ends_hit_fits point hg).bind ?_ fun _ q hq => ?_
  · rintro index ⟨_, t'⟩ ⟨rfl, hindex⟩
    rw [ends_bind, Step.ends_self]
    dsimp only
    split
    · exact hg
    · cases index with
      | none => exact hg
      | some index => exact ⟨hg.items, hg.selection, hindex _ rfl⟩
  · change Ranged count q.1
    rwa [hq.1]

theorem ranged_onPointerUp (point : Point) :
    Keeps (fun p => Ranged count p.1) (onPointerUp point : Step (SegmentGroup α τ) τ Bool) := by
  rintro ⟨group, t⟩ (hg : Ranged count group)
  rw [onPointerUp]
  refine (ends_hit_fits point hg).bind ?_ fun _ q hq => ?_
  · rintro index ⟨_, t'⟩ ⟨rfl, hindex⟩
    rw [ends_bind, Step.ends_self]
    dsimp only
    split
    · exact hg
    next pressed hpressed =>
      have hi : pressed < count := hg.pressed pressed hpressed
      have htap : Keeps (fun p : SegmentGroup α τ × τ => Ranged count p.1)
          (if index = some pressed then commit pressed else pure ()) :=
        .ite (fun _ => ranged_commit hi) fun _ => .pure _
      refine Keeps.bind (htap.tryCatch fun e => ?_) (fun _ => ?_) _ hg
      · exact ranged_release.bind fun _ => .throw e
      · exact ranged_release.bind fun _ => .pure _
  · change Ranged count q.1
    rwa [hq.1]

theorem ranged_handleEvent (event : InputEvent) :
    Keeps (fun p => Ranged count p.1) (handleEvent event : Step (SegmentGroup α τ) τ Bool) := by
  have hcheck : Keeps (fun p => Ranged count p.1)
      (checkSelection : Step (SegmentGroup α τ) τ Unit) :=
    Step.keeps_self_bind fun _ _ _ => Step.keeps_check _
  refine Step.keeps_self_bind fun group _ _ => .ite (fun _ => .pure _) fun _ => ?_
  cases event with
  | pointerDown point => exact hcheck.bind fun _ => ranged_onPointerDown point
  | pointerUp point => exact hcheck.bind fun _ => ranged_onPointerUp point
  | _ => exact .pure _

theorem inRange_destroy :
    Keeps (fun p => InRange p.1) (destroy : Step (SegmentGroup α τ) τ Unit) := by
  intro p _
  rw [ends_destroy]
  refine (ends_run _ _).imp fun r q _ => ⟨rfl, ?_, fits_none _⟩
  change q.1.selection.cleared.Ranged 0
  cases q.1.selection with
  | single index => exact fits_none _
  | multi flags => rfl

variable [PaintHost α τ]

theorem inRange_run (hear : SegmentListener σ → SegmentListener τ) (op : SegmentOp α σ) :
    Keeps (fun p => InRange p.1) (op.run hear : Step (SegmentGroup α τ) τ Unit) := by
  cases op with
  | setItems items => exact inRange_setItems items
  | setItemsWithStates items flags => exact inRange_setItemsWithStates items flags
  | setStyle style =>
    refine keeps_inRange fun count => (Step.keeps_check _).bind fun _ => ?_
    refine Keeps.bind (Step.keeps_host fun _ _ hr => hr) fun font => ?_
    refine (ranged_onFont _).bind fun _ => ?_
    exact Step.keeps_update fun _ _ hr => ⟨hr.items, hr.selection, hr.pressed⟩
  | setSelectedIndex selected => exact keeps_inRange fun _ => ranged_setSelectedIndex selected
  | setSelectedState index on => exact keeps_inRange fun _ => ranged_setSelectedState index on
  | setOnSelect listener => exact Step.keeps_update fun _ _ hr => ⟨rfl, hr.selection, hr.pressed⟩
  | setFlags flags => exact Step.keeps_update fun _ _ hr => ⟨rfl, hr.selection, hr.pressed⟩
  | setDisabled on => exact Step.keeps_update fun _ _ hr => ⟨rfl, hr.selection, hr.pressed⟩
  | measure width height =>
    exact keeps_ignore (keeps_inRange fun _ => keeps_ranged fun group =>
      keeps_measure (measures_true group.font) width height)
  | layout bounds =>
    refine (Step.keeps_check _).bind fun _ => ?_
    exact Step.keeps_update fun _ _ hr => ⟨rfl, hr.selection, hr.pressed⟩
  | paint =>
    exact keeps_inRange fun _ => keeps_ranged fun group => keeps_paint (measures_true group.font)
      (fun _ _ _ => .of_true _) fun _ _ _ _ _ _ => .of_true _
  | event e => exact keeps_ignore (keeps_inRange fun _ => ranged_handleEvent e)
  | destroy => exact inRange_destroy

omit [PaintHost α τ] in
theorem ends_create_inRange (style : SegmentStyle α) (items : List String) (selection : Selection)
    (t : τ) : Ends (create style items selection) t fun r _ =>
      ∀ group, r = .ok group → group.InRange := by
  apply (ends_create_ok style items selection t).imp
  intro r t' hmade group hr
  obtain ⟨hs, font, rfl⟩ := hmade group hr
  exact ⟨rfl, Selection.ranged_of_validate hs, fits_none _⟩

theorem Reachable.inRange {hear : SegmentListener σ → SegmentListener τ}
    {p : SegmentGroup α τ × τ} (hp : Reachable hear p) : p.1.InRange :=
  hp.invariant (fun p => InRange p.1) ends_create_inRange (inRange_run hear)

end SegmentGroup

end Widgetry
