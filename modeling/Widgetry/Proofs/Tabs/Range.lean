import Widgetry.Proofs.Range
import Widgetry.Proofs.Reachable
import Widgetry.Proofs.Tabs.Core

/-! Selection and press of a tab row always address one of its tabs. Most operations leave tabs,
selection and press alone; the others check an index before they write it, or restore one that was
checked. -/
namespace Widgetry

open Step (At)

variable {α σ τ χ β : Type} [Scalar α] {measurer : Measurer α σ} {h : σ}

namespace TabStyle

variable (s : TabStyle α)

theorem ends_walk_lt (l : TabLayout α) (index : Nat) (pos : α) (items : List String) :
    Ends (s.walk measurer l index pos items) h fun r _ =>
      ∀ found, r = .ok found → Fits (index + items.length) found := by
  have hnone : Fits (index + items.length) none := fits_none _
  induction items generalizing index pos h with
  | nil =>
    rintro _ ⟨⟩
    exact hnone
  | cons item rest ih =>
    rw [walk, ends_bind]
    apply (ends_run _ _).imp
    rintro (e | width) h' -
    · exact nofun
    dsimp only
    split
    · rintro _ ⟨⟩
      apply fits_some
      simp
    split
    · rintro _ ⟨⟩
      exact hnone
    split
    · rintro _ ⟨⟩
      exact hnone
    · rw [List.length_cons, Nat.add_comm rest.length 1, ← Nat.add_assoc]
      exact ih (index + 1) _ (fits_none _)

theorem ends_hitTest_fits (items : List String) (l : TabLayout α) (x y scroll : α) :
    Ends (s.hitTest measurer items l x y scroll) h fun r _ =>
      ∀ found, r = .ok found → Fits items.length found := by
  have hnone : ∀ found, (Except.ok none : Except Error (Option Nat)) = .ok found →
      Fits items.length found := by
    rintro _ ⟨⟩
    exact fits_none _
  rw [hitTest]
  split
  · exact hnone
  split
  · exact hnone
  cases l.mode with
  | fixed =>
    dsimp only
    split
    · exact hnone
    · rw [ends_liftExcept]
      exact fun _ => Row.fits_uniformHit
  | scrollable =>
    dsimp only
    split
    · exact hnone
    · rw [← Nat.zero_add items.length]
      exact s.ends_walk_lt l 0 _ items

end TabStyle

namespace TabRow

/-- `count` tabs, of which selection and press address one or none. -/
structure Ranged (count : Nat) (row : TabRow α τ χ) : Prop where
  items : row.items.length = count
  selected : Fits count row.selected
  pressed : Fits count row.pressed

def InRange (row : TabRow α τ χ) : Prop := Ranged row.items.length row

variable {row : TabRow α τ χ} {count : Nat}

omit [Scalar α] in
theorem Ranged.inRange (hr : Ranged count row) : row.InRange := by
  obtain rfl := hr.items
  exact hr

omit [Scalar α] in
theorem Ranged.of_core {row' : TabRow α τ χ} (hr : Ranged count row)
    (hc : row'.core = row.core) : Ranged count row' := by
  have hitems : row'.items = row.items := congrArg TabCore.items hc
  have hselected : row'.selected = row.selected := congrArg TabCore.selected hc
  have hpressed : row'.pressed = row.pressed := congrArg TabCore.pressed hc
  exact ⟨hitems ▸ hr.items, hselected ▸ hr.selected, hpressed ▸ hr.pressed⟩

omit [Scalar α] in
theorem keeps_ranged {act : Step (TabRow α τ χ) τ β}
    (ha : ∀ c, Keeps (At core c fun _ => True) act) :
    Keeps (fun p => Ranged count p.1) act := by
  intro p hp
  exact (ha p.1.core).ends ⟨rfl, trivial⟩ fun _ _ hq => hp.of_core hq.1

omit [Scalar α] in
theorem keeps_inRange {act : Step (TabRow α τ χ) τ β}
    (ha : ∀ count, Keeps (fun p => Ranged count p.1) act) :
    Keeps (fun p => InRange p.1) act := by
  intro p hp
  exact (ha p.1.items.length).ends hp fun _ _ hq => hq.inRange

variable [TextHost α τ] [Channel α τ χ]

theorem ranged_syncIndicator (layout : TabLayout α) (animate : Bool) :
    Keeps (fun p => Ranged count p.1)
      (syncIndicator layout animate : Step (TabRow α τ χ) τ Unit) :=
  keeps_ranged fun c => keeps_syncIndicator (calls_true c.font) layout animate

theorem ranged_resnap :
    Keeps (fun p => Ranged count p.1) (resnap : Step (TabRow α τ χ) τ Unit) :=
  keeps_ranged fun c => keeps_resnap (calls_true c.font)

theorem ranged_rollBack {previous : Option Nat} (hp : Fits count previous)
    (layout : TabLayout α) :
    Keeps (fun p => Ranged count p.1)
      (rollBack previous layout : Step (TabRow α τ χ) τ Unit) := by
  refine Keeps.bind (Step.keeps_update fun _ _ hr => ⟨hr.items, hp, hr.pressed⟩) fun _ => ?_
  refine (ranged_syncIndicator layout false).tryCatch fun _ => ?_
  exact Step.keeps_update fun _ _ hr => ⟨hr.items, hr.selected, hr.pressed⟩

theorem ranged_selectOrRollBack {selected : Option Nat} (hs : Fits count selected)
    {layout : TabLayout α} {accept : Step (TabRow α τ χ) τ Unit}
    (ha : Keeps (fun p => Ranged count p.1) accept) :
    Keeps (fun p => Ranged count p.1) (selectOrRollBack selected layout accept) := by
  refine Step.keeps_self_bind fun row _ hrow => ?_
  refine Keeps.bind (Step.keeps_update fun _ _ hr => ⟨hr.items, hs, hr.pressed⟩) fun _ => ?_
  refine ((ranged_syncIndicator layout true).bind fun _ => ha).tryCatch fun e => ?_
  exact (ranged_rollBack hrow.selected layout).bind fun _ => .throw e

theorem ranged_setSelected (selected : Option Nat) :
    Keeps (fun p => Ranged count p.1) (setSelected selected : Step (TabRow α τ χ) τ Unit) := by
  refine Step.keeps_self_bind fun row _ hrow => keeps_liftExcept_bind fun _ hs => ?_
  have hs : Fits count selected := hrow.items ▸ Validate.fits_of_selection hs
  refine .ite (fun _ => Step.keeps_update fun _ _ hr => ⟨hr.items, hs, hr.pressed⟩) fun _ => ?_
  refine (keeps_ranged fun c => keeps_currentLayout (calls_true c.font)).bind fun layout => ?_
  exact ranged_selectOrRollBack hs (.pure _)

theorem inRange_setItems (items : List String) :
    Keeps (fun p => InRange p.1) (setItems items : Step (TabRow α τ χ) τ Unit) := by
  rintro ⟨row, t⟩ (hrow : InRange row)
  have hnew : Ranged items.length (row.refill items) :=
    ⟨rfl, Validate.fits_inRange _ _, Validate.fits_inRange _ _⟩
  rw [ends_setItems_iff]
  split
  · exact hnew.inRange
  · apply (ranged_resnap _ hnew).imp
    rintro (e | ⟨⟩) q hq
    · have hback : Ranged row.items.length (q.1.restore row) :=
        ⟨rfl, hrow.selected, hrow.pressed⟩
      exact (ranged_resnap _ hback).imp fun _ _ hq => hq.inRange
    · exact hq.inRange

theorem ends_hit_fits (point : Point) {p : TabRow α τ χ × τ} (hp : Ranged count p.1) :
    Ends (hit point) p fun r q => Ranged count q.1 ∧
      ∀ layout index, r = .ok (layout, index) → Fits count index := by
  have hlayout : Keeps (fun p => Ranged count p.1)
      (currentLayout : Step (TabRow α τ χ) τ (TabLayout α)) :=
    keeps_ranged fun c => keeps_currentLayout (calls_true c.font)
  rw [hit]
  refine (hlayout p hp).bind ?_ fun _ _ hq => ⟨hq, nofun⟩
  intro layout q hq
  rw [ends_bind, Step.ends_self]
  refine .of_check (fun scroll _ => ?_) fun _ _ => ⟨hq, nofun⟩
  rw [ends_bind, Step.ends_update]
  have hscrolled : Ranged count { q.1 with scroll } := ⟨hq.items, hq.selected, hq.pressed⟩
  dsimp only
  rw [ends_bind, Step.ends_self]
  refine .of_check (fun measurer _ => ?_) fun _ _ => ⟨hscrolled, nofun⟩
  rw [ends_bind, Step.ends_host]
  apply (TabStyle.ends_hitTest_fits _ _ _ _ _ _).imp
  rintro (e | index) _ hindex
  · exact ⟨hscrolled, nofun⟩
  · refine ⟨hscrolled, ?_⟩
    rintro _ _ ⟨⟩
    exact hq.items ▸ hindex index rfl

omit [TextHost α τ] [Channel α τ χ] [Scalar α] in
theorem ranged_release :
    Keeps (fun p => Ranged count p.1) (release : Step (TabRow α τ χ) τ Unit) :=
  Step.keeps_update fun _ _ hr => ⟨hr.items, hr.selected, fits_none _⟩

theorem ranged_commit {index : Nat} (hi : index < count) (layout : TabLayout α) :
    Keeps (fun p => Ranged count p.1) (commit index layout : Step (TabRow α τ χ) τ Unit) := by
  refine Step.keeps_self_bind fun row _ _ => ranged_selectOrRollBack (fits_some hi) ?_
  cases row.onSelect with
  | none => exact .pure _
  | some listener => exact Step.keeps_host fun _ _ hr => hr

theorem ranged_onPointerDown (point : Point) :
    Keeps (fun p => Ranged count p.1) (onPointerDown point : Step (TabRow α τ χ) τ Bool) := by
  intro p hp
  rw [onPointerDown]
  refine (ends_hit_fits point hp).bind ?_ fun _ _ hq => hq.1
  rintro ⟨layout, index⟩ q ⟨hq, hindex⟩
  dsimp only
  rw [ends_bind, Step.ends_self]
  dsimp only
  split
  · exact hq
  · cases index with
    | none => exact hq
    | some index => exact ⟨hq.items, hq.selected, hindex layout _ rfl⟩

theorem ranged_onPointerUp (point : Point) :
    Keeps (fun p => Ranged count p.1) (onPointerUp point : Step (TabRow α τ χ) τ Bool) := by
  intro p hp
  rw [onPointerUp]
  refine (ends_hit_fits point hp).bind ?_ fun _ _ hq => hq.1
  rintro ⟨layout, index⟩ q ⟨hq, hindex⟩
  dsimp only
  rw [ends_bind, Step.ends_self]
  dsimp only
  cases hpressed : q.1.pressed with
  | none => exact hq
  | some pressed =>
    have hi : pressed < count := hq.pressed pressed hpressed
    have htap : Keeps (fun p : TabRow α τ χ × τ => Ranged count p.1)
        (if index = some pressed then commit pressed layout else pure ()) :=
      .ite (fun _ => ranged_commit hi layout) fun _ => .pure _
    refine Keeps.bind (htap.tryCatch fun e => ?_) (fun _ => ?_) q hq
    · exact ranged_release.bind fun _ => .throw e
    · exact ranged_release.bind fun _ => .pure _

theorem ranged_handleEvent (event : InputEvent) :
    Keeps (fun p => Ranged count p.1) (handleEvent event : Step (TabRow α τ χ) τ Bool) := by
  intro p hp
  by_cases hd : p.1.flags.has WidgetFlags.disabled
  · exact (ends_handleEvent_disabled hd).mpr hp
  rw [ends_handleEvent hd]
  cases event with
  | scroll point dx dy =>
    exact keeps_ranged (fun c => keeps_onScroll (calls_true c.font) dx) p hp
  | pointerDown point => exact ranged_onPointerDown point p hp
  | pointerUp point => exact ranged_onPointerUp point p hp
  | pointerMove _ => exact hp
  | keyDown _ => exact hp
  | keyUp _ => exact hp

omit [Scalar α] [TextHost α τ] [Channel α τ χ] in
theorem ranged_onFont (act : Step OwnedFont τ Unit) :
    Keeps (fun p => Ranged count p.1) (onFont act : Step (TabRow α τ χ) τ Unit) := by
  refine Step.keeps_zoom (fun _ => rfl) fun row p hp => ?_
  exact (ends_run act p).imp fun _ _ _ => ⟨hp.items, hp.selected, hp.pressed⟩

theorem inRange_destroy :
    Keeps (fun p => InRange p.1) (destroy : Step (TabRow α τ χ) τ Unit) := by
  intro p _
  rw [ends_destroy]
  exact (ends_run _ _).imp fun _ _ _ => ⟨rfl, fits_none _, fits_none _⟩

variable [PaintHost α τ]

theorem inRange_run (hear : TabListener σ → TabListener τ) (op : TabOp α σ) :
    Keeps (fun p => InRange p.1) (op.run hear : Step (TabRow α τ χ) τ Unit) := by
  cases op with
  | setItems items => exact inRange_setItems items
  | setStyle style =>
    refine keeps_inRange fun count => (Step.keeps_check _).bind fun _ => ?_
    refine Keeps.bind (Step.keeps_host fun _ _ hr => hr) fun font => ?_
    refine (ranged_onFont _).bind fun _ => ?_
    exact Step.keeps_update fun _ _ hr => ⟨hr.items, hr.selected, hr.pressed⟩
  | setSelected selected => exact keeps_inRange fun _ => ranged_setSelected selected
  | setScroll offset =>
    exact keeps_inRange fun _ => keeps_ranged fun c => keeps_setScroll (calls_true c.font) offset
  | setOnSelect listener => exact Step.keeps_update fun _ _ hr => ⟨rfl, hr.selected, hr.pressed⟩
  | setFlags flags => exact Step.keeps_update fun _ _ hr => ⟨rfl, hr.selected, hr.pressed⟩
  | setDisabled on => exact Step.keeps_update fun _ _ hr => ⟨rfl, hr.selected, hr.pressed⟩
  | step dt =>
    exact keeps_ignore (keeps_inRange fun _ => keeps_ranged fun c =>
      keeps_step (calls_true c.font) dt)
  | measure width height =>
    exact keeps_ignore (keeps_inRange fun _ => keeps_ranged fun c =>
      keeps_measure (calls_true c.font) width height)
  | layout bounds =>
    exact keeps_inRange fun _ => keeps_ranged fun c => keeps_layout (calls_true c.font) bounds
  | paint =>
    exact keeps_inRange fun _ => keeps_ranged fun c => keeps_paint (calls_true c.font)
      (fun _ _ _ => .of_true _) fun _ _ _ _ _ _ => .of_true _
  | event e => exact keeps_ignore (keeps_inRange fun _ => ranged_handleEvent e)
  | destroy => exact inRange_destroy

omit [PaintHost α τ] in
theorem ends_create_inRange (style : TabStyle α) (items : List String) (selected : Option Nat)
    (positionChannel widthChannel : χ) (t : τ) :
    Ends (create style items selected positionChannel widthChannel) t fun r _ =>
      ∀ row, r = .ok row → row.InRange := by
  apply (ends_create_ok style items selected positionChannel widthChannel t).imp
  intro r t' hmade row hr
  obtain ⟨-, hs, font, t₀, hsync⟩ := hmade row hr
  have hnew : Ranged items.length
      (fresh style items font selected positionChannel widthChannel : TabRow α τ χ) :=
    ⟨rfl, Validate.fits_of_selection hs, fits_none _⟩
  have hranged := (ends_of_run hsync).mp (ranged_syncIndicator _ _ (_, t₀) hnew)
  exact hranged.inRange

theorem Reachable.inRange {hear : TabListener σ → TabListener τ} {p : TabRow α τ χ × τ}
    (hp : Reachable hear p) : p.1.InRange :=
  hp.invariant (fun p => InRange p.1) ends_create_inRange (inRange_run hear)

end TabRow

end Widgetry
