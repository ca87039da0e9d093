import Widgetry.Monospace
import Widgetry.Proofs.Segmented.Frame
import Widgetry.Proofs.Segmented.Geometry
import Widgetry.Proofs.Tabs.Core
import Widgetry.Proofs.Tabs.Hits

/-! Presses and wheels outside the bounds of a row of items. Segments and fixed tabs leave them to
others; scrollable tabs take a wheel wherever it points, and a press where their content overhangs
the bounds. -/
namespace Widgetry

/-- A press at the point, or a turn of the wheel there. -/
inductive InputEvent.PointsAt : InputEvent → Point → Prop
  | press (point : Point) : PointsAt (.pointerDown point) point
  | wheel (point : Point) (dx dy : Int) : PointsAt (.scroll point dx dy) point

/-- The point lies outside the closed rectangle. -/
def Rect.Excludes (r : Rect Rat) (point : Point) : Prop :=
  ¬r.Covers (Scalar.ofInt point.x) (Scalar.ofInt point.y)

instance (r : Rect Rat) (point : Point) : Decidable (r.Excludes point) :=
  inferInstanceAs (Decidable ¬_)

variable {σ : Type} [TextHost Rat σ] {event : InputEvent} {point : Point}

namespace SegmentGroup

variable {group : SegmentGroup Rat σ} {h : σ}

theorem ends_currentLayout :
    Ends (currentLayout : Step (SegmentGroup Rat σ) σ _) (group, h) fun r q => q.1 = group ∧
      ∀ l, r = .ok l → l.Placed group.style group.items group.bounds := by
  rw [currentLayout, ends_bind, Step.ends_self]
  refine .of_check (fun measurer _ => ?_) fun _ _ => ⟨rfl, fun _ hr => nomatch hr⟩
  rw [Step.ends_host]
  exact SegmentStyle.ends_computeLayout.imp fun _ _ hl => ⟨rfl, fun l hr => (hl l hr).1⟩

theorem ends_hit :
    Ends (hit point) (group, h) fun r q => q.1 = group ∧ ∀ index, r = .ok (some index) →
      group.bounds.Covers (Scalar.ofInt point.x) (Scalar.ofInt point.y) := by
  rw [hit]
  refine ends_currentLayout.bind ?_ fun _ _ hq => ⟨hq.1, fun _ hr => nomatch hr⟩
  rintro layout ⟨_, h'⟩ ⟨rfl, hl⟩
  rw [ends_bind, Step.ends_self]
  dsimp only
  rw [Step.ends_check]
  exact ⟨rfl, fun index hindex => (hl layout rfl).covers hindex⟩

theorem ends_handleEvent_outside (hevent : event.PointsAt point)
    (hout : group.bounds.Excludes point) :
    Ends (handleEvent event) (group, h) fun r q => r ≠ .ok true ∧ q.1 = group := by
  unfold handleEvent
  rw [ends_bind, Step.ends_self]
  dsimp only
  by_cases hd : group.flags.has WidgetFlags.disabled
  · rw [if_pos hd]
    exact ⟨nofun, rfl⟩
  rw [if_neg hd]
  cases hevent with
  | wheel => exact ⟨nofun, rfl⟩
  | press =>
    dsimp only
    rw [checkSelection, bind_assoc, ends_bind, Step.ends_self]
    refine .of_check (fun _ _ => ?_) fun _ _ => ⟨nofun, rfl⟩
    rw [onPointerDown]
    refine ends_hit.bind ?_ fun _ _ hq => ⟨nofun, hq.1⟩
    rintro index ⟨_, h'⟩ ⟨rfl, hcovers⟩
    rw [ends_bind, Step.ends_self]
    dsimp only
    split
    · exact ⟨nofun, rfl⟩
    · cases index with
      | none => exact ⟨nofun, rfl⟩
      | some index => exact (hout (hcovers index rfl)).elim

end SegmentGroup

namespace TabRow

variable {χ : Type} {p : TabRow Rat σ χ × σ}

theorem ends_currentLayout :
    Ends (currentLayout : Step (TabRow Rat σ χ) σ _) p fun r q => q.1 = p.1 ∧
      ∀ l, r = .ok l → l.Placed p.1.style p.1.items p.1.bounds := by
  rw [currentLayout, ends_bind, Step.ends_self]
  refine .of_check (fun measurer _ => ?_) fun _ _ => ⟨rfl, fun _ hr => nomatch hr⟩
  rw [Step.ends_host]
  exact TabStyle.ends_computeLayout.imp fun _ _ hl => ⟨rfl, fun l hr => (hl l hr).1⟩

/-- A tab is shown at the point: the point is on the content and, wherever labels measure alike,
on the rectangle in which a scrollable tab is drawn. -/
structure ShownAt (row : TabRow Rat σ χ) (point : Point) (layout : TabLayout Rat) (index : Nat)
    (scroll : Rat) : Prop where
  placed : layout.Placed row.style row.items row.bounds
  offset : 0 ≤ scroll ∧ scroll ≤ layout.maxScroll
  items : row.items ≠ []
  content : layout.OnContent (Scalar.ofInt point.x) (Scalar.ofInt point.y) scroll
  drawn : row.style.mode = .scrollable → ∀ (measurer : Measurer Rat σ) metrics,
    row.font.measurer = .ok measurer → Answers measurer metrics → ∃ rect,
      (row.style.itemRect (fun text => pure (metrics text)) row.items layout index scroll).run () =
        (.ok rect, ()) ∧ rect.Covers (Scalar.ofInt point.x) (Scalar.ofInt point.y)

variable {row : TabRow Rat σ χ} {layout : TabLayout Rat} {offset scroll : Rat}
  {measurer : Measurer Rat σ} {h : σ}

theorem ends_hitTest_shown (hplaced : layout.Placed row.style row.items row.bounds)
    (hscroll : layout.clampScroll offset = .ok scroll)
    (hmeasurer : row.font.measurer = .ok measurer) :
    Ends (row.style.hitTest measurer row.items layout (Scalar.ofInt point.x) (Scalar.ofInt point.y)
      scroll) h fun r _ =>
        ∀ index, r = .ok (some index) → ShownAt row point layout index scroll := by
  rcases hrun : (row.style.hitTest measurer row.items layout (Scalar.ofInt point.x)
    (Scalar.ofInt point.y) scroll).run h with ⟨r, h'⟩
  rw [ends_of_run hrun]
  intro index hr
  have hcontent : row.items ≠ [] ∧ layout.OnContent _ _ scroll :=
    (ends_of_run hrun).mp TabStyle.ends_hitTest index hr
  refine ⟨hplaced, TabLayout.clampScroll_bounds hscroll, hcontent.1, hcontent.2, ?_⟩
  intro hmode measurer' metrics hmeasurer' hanswers
  obtain rfl : measurer = measurer' := Except.ok.inj (hmeasurer.symm.trans hmeasurer')
  exact (ends_of_run hrun).mp (TabStyle.ends_hitTest_rect hanswers hplaced hmode) index hr

theorem ends_hit :
    Ends (hit point : Step (TabRow Rat σ χ) σ _) (row, h) fun r q => q.1.core = row.core ∧
      ∀ layout index, r = .ok (layout, some index) → ShownAt row point layout index q.1.scroll := by
  rw [hit]
  refine ends_currentLayout.bind ?_ fun _ q hq => ⟨by rw [hq.1], fun _ _ hr => nomatch hr⟩
  rintro layout ⟨_, h₁⟩ ⟨rfl, hplaced⟩
  have hplaced := hplaced layout rfl
  rw [ends_bind, Step.ends_self]
  refine .of_check (fun scroll hscroll => ?_) fun _ _ => ⟨rfl, fun _ _ hr => nomatch hr⟩
  rw [ends_bind, Step.ends_update]
  dsimp only
  rw [ends_bind, Step.ends_self]
  refine .of_check (fun measurer hmeasurer => ?_) fun _ _ => ⟨rfl, fun _ _ hr => nomatch hr⟩
  rw [ends_bind, Step.ends_host]
  apply (ends_hitTest_shown hplaced hscroll hmeasurer).imp
  rintro (e | index) h₂ hindex
  · exact ⟨rfl, fun _ _ hr => nomatch hr⟩
  · refine ⟨rfl, fun layout' index' hr => ?_⟩
    obtain ⟨rfl, rfl⟩ := Prod.mk.inj (Except.ok.inj hr)
    exact hindex index' rfl

/-- An offset that is set is as far as there is content. -/
theorem ends_setScroll :
    Ends (setScroll offset) (row, h) fun r q => (r ≠ .ok () → q.1.scroll = row.scroll) ∧
      (r = .ok () → row.style.mode = .scrollable → ∃ layout h',
        currentLayout.run (row, h) = (.ok layout, (row, h')) ∧
          q.1.scroll = min offset layout.maxScroll) := by
  rw [setScroll]
  split
  · exact ⟨fun _ => rfl, fun hr => nomatch hr⟩
  rw [ends_bind, Step.ends_self]
  dsimp only
  split
  next hmode =>
    refine ⟨fun hr => (hr rfl).elim, fun _ hscrollable => ?_⟩
    exact nomatch hmode.symm.trans hscrollable
  next hmode =>
    refine ((ends_run currentLayout (row, h)).and ends_currentLayout).bind ?_ ?_
    · rintro layout ⟨row', h'⟩ ⟨hrun, hrow, hplaced⟩
      obtain rfl : row' = row := hrow
      refine .of_check (fun scroll hscroll => ?_) fun _ _ => ⟨fun _ => rfl, fun hr => nomatch hr⟩
      refine ⟨fun hr => (hr rfl).elim, fun _ _ => ⟨layout, h', hrun, ?_⟩⟩
      exact TabLayout.clampScroll_scrollable ((hplaced layout rfl).mode.trans hmode) hscroll
    · rintro e q ⟨-, hrow, -⟩
      exact ⟨fun _ => congrArg TabRow.scroll hrow, fun hr => nomatch hr⟩

theorem ends_onScroll (dx : Int) :
    Ends (onScroll dx) (row, h) fun r q => (r ≠ .ok true → q.1.scroll = row.scroll) ∧
      (r = .ok true → row.style.mode = .scrollable ∧ dx ≠ 0 ∧ ∃ layout h',
        currentLayout.run (row, h) = (.ok layout, (row, h')) ∧
          q.1.scroll = min (row.scroll + Scalar.ofInt dx) layout.maxScroll) := by
  rw [onScroll, ends_bind, Step.ends_self]
  dsimp only
  split
  · exact ⟨fun _ => rfl, fun hr => nomatch hr⟩
  next hmoves =>
    obtain ⟨hfixed, hdx⟩ := not_or.mp hmoves
    have hmode : row.style.mode = .scrollable := TabMode.scrollable_of_ne hfixed
    refine ends_setScroll.bind ?_ fun _ q hq => ⟨fun _ => hq.1 nofun, fun hr => nomatch hr⟩
    rintro ⟨⟩ q ⟨-, hq⟩
    exact ⟨fun hr => (hr rfl).elim, fun _ => ⟨hmode, hdx, hq rfl hmode⟩⟩

variable [Channel Rat σ χ]

/-- What a row does with an event outside its bounds. -/
inductive Outside (p : TabRow Rat σ χ × σ) :
    InputEvent → Except Error Bool → TabRow Rat σ χ × σ → Prop
  | left {event : InputEvent} {r : Except Error Bool} {q : TabRow Rat σ χ × σ}
      (untaken : r ≠ .ok true) (pressed : q.1.pressed = p.1.pressed)
      (still : ∀ point dx dy, event = .scroll point dx dy → q.1.scroll = p.1.scroll) :
      Outside p event r q
  /-- A wheel is taken wherever it points. -/
  | wheel {point : Point} {dx dy : Int} {layout : TabLayout Rat} {h : σ}
      {q : TabRow Rat σ χ × σ} (scrollable : p.1.style.mode = .scrollable) (moves : dx ≠ 0)
      (laid : currentLayout.run p = (.ok layout, (p.1, h)))
      (scroll : q.1.scroll = min (p.1.scroll + Scalar.ofInt dx) layout.maxScroll)
      (core : q.1.core = p.1.core)
      (anywhere : ∀ other, (handleEvent (.scroll other dx dy)).run p = (.ok true, q)) :
      Outside p (.scroll point dx dy) (.ok true) q
  /-- A press is taken beside the bounds, on a tab of content that overflows them. -/
  | press {point : Point} {layout : TabLayout Rat} {index : Nat} {q : TabRow Rat σ χ × σ}
      (scrollable : p.1.style.mode = .scrollable)
      (laid : ∃ q', (hit point).run p = (.ok (layout, some index), q'))
      (shown : ShownAt p.1 point layout index q.1.scroll)
      (overflows : 0 < layout.maxScroll)
      (beside : p.1.bounds.y ≤ Scalar.ofInt point.y ∧ Scalar.ofInt point.y ≤ p.1.bounds.bottom)
      (pressed : q.1.pressed = some index) : Outside p (.pointerDown point) (.ok true) q

theorem ends_onScroll_outside (hd : ¬row.flags.has WidgetFlags.disabled) (dx dy : Int) :
    Ends (onScroll dx) (row, h) (Outside (row, h) (.scroll point dx dy)) := by
  have hcore := keeps_onScroll (calls_true row.font) dx (row, h) ⟨rfl, trivial⟩
  have hends := ((ends_run (onScroll dx) (row, h)).and hcore).and (ends_onScroll dx)
  apply hends.imp
  rintro r q ⟨⟨hrun, hcore, -⟩, hmissed, htaken⟩
  by_cases hr : r = .ok true
  · obtain ⟨hmode, hdx, layout, h', hlaid, hscroll⟩ := htaken hr
    subst hr
    refine .wheel hmode hdx hlaid hscroll hcore fun other => ?_
    have hother : Ends (handleEvent (.scroll other dx dy)) (row, h) fun r q =>
        (onScroll dx).run (row, h) = (r, q) := (ends_handleEvent hd).mpr (ends_run _ _)
    exact hother.symm.trans hrun
  · exact .left hr (congrArg TabCore.pressed hcore) fun _ _ _ _ => hmissed hr

theorem ends_onPointerDown_outside (hout : row.bounds.Excludes point) :
    Ends (onPointerDown point) (row, h) (Outside (row, h) (.pointerDown point)) := by
  rw [onPointerDown]
  refine ((ends_run (hit point) (row, h)).and ends_hit).bind ?_ ?_
  · rintro ⟨layout, index⟩ q ⟨hrun, hcore, hshown⟩
    have hpressed : q.1.pressed = row.pressed := congrArg TabCore.pressed hcore
    dsimp only
    rw [ends_bind, Step.ends_self]
    dsimp only
    split
    · exact .left nofun hpressed nofun
    · cases index with
      | none => exact .left nofun hpressed nofun
      | some index =>
        have hshown := hshown layout index rfl
        have hnot : ¬(row.style.mode = .fixed ∨ layout.maxScroll ≤ 0) := fun hfits =>
          hout (hshown.placed.covers hshown.items hshown.content hshown.offset hfits)
        obtain ⟨hfixed, hfits⟩ := not_or.mp hnot
        have hmode : row.style.mode = .scrollable := TabMode.scrollable_of_ne hfixed
        refine .press hmode ⟨q, hrun⟩ hshown (not_le.mp hfits) ⟨?_, ?_⟩ rfl
        · exact (hshown.placed.top hshown.items).trans hshown.content.top
        · exact hshown.content.bottom.trans (hshown.placed.bottom hshown.items)
  · rintro e q ⟨-, hcore, -⟩
    exact .left nofun (congrArg TabCore.pressed hcore) nofun

theorem ends_handleEvent_outside (hevent : event.PointsAt point)
    (hout : row.bounds.Excludes point) :
    Ends (handleEvent event) (row, h) (Outside (row, h) event) := by
  by_cases hd : row.flags.has WidgetFlags.disabled
  · rw [ends_handleEvent_disabled hd]
    exact .left nofun rfl fun _ _ _ _ => rfl
  rw [ends_handleEvent hd]
  cases hevent with
  | wheel _ dx dy => exact ends_onScroll_outside hd dx dy
  | press => exact ends_onPointerDown_outside hout

end TabRow

/-- Outside its bounds a group takes no press and no wheel, and neither does a fixed row. What a
scrollable row takes there is a wheel, as it would anywhere, or a press on a tab that overhangs. -/
theorem events_outside {χ : Type} [Channel Rat σ χ] (hevent : event.PointsAt point) :
    (∀ g : SegmentGroup Rat σ × σ, g.1.bounds.Excludes point →
      Ends (SegmentGroup.handleEvent event) g fun r q => r ≠ .ok true ∧ q.1 = g.1) ∧
    ∀ p : TabRow Rat σ χ × σ, p.1.bounds.Excludes point →
      Ends (TabRow.handleEvent event) p (TabRow.Outside p event) :=
  ⟨fun _ hout => SegmentGroup.ends_handleEvent_outside hevent hout,
    fun _ hout => TabRow.ends_handleEvent_outside hevent hout⟩

/-- Two scrollable tabs of 90 each in a width of 100. -/
def overflowing : HostM (Monospace Rat) (TabRow Rat (Monospace Rat) (Timing Rat)) := do
  let style : TabStyle Rat := { TabStyle.scrollable with text := .withFamily "Sans" }
  let row ← TabRow.create style ["Home", "Library"] none .idle .idle
  Step.construct row (TabRow.layout ⟨0, 0, 100, 48⟩)

theorem overflowing_run : ∃ row host, overflowing.run .empty = (.ok row, host) ∧
    row.bounds.Excludes ⟨120, 24⟩ ∧
    (∃ q, (TabRow.handleEvent (.scroll ⟨120, 24⟩ 5 0)).run (row, host) = (.ok true, q) ∧
      q.1.scroll = row.scroll + 5) ∧
    ∃ q, (TabRow.handleEvent (.pointerDown ⟨120, 24⟩)).run (row, host) = (.ok true, q) ∧
      q.1.pressed = some 1 := by
  have htaken : (match overflowing.run .empty with
      | (.ok row, host) =>
        let wheel := (TabRow.handleEvent (.scroll ⟨120, 24⟩ 5 0)).run (row, host)
        let press := (TabRow.handleEvent (.pointerDown ⟨120, 24⟩)).run (row, host)
        decide (row.bounds.Excludes ⟨120, 24⟩ ∧ wheel.1.toOption = some true ∧
          wheel.2.1.scroll = row.scroll + 5 ∧ press.1.toOption = some true ∧
          press.2.1.pressed = some 1)
      | (.error _, _) => false) = true := by decide +kernel
  rcases hrun : overflowing.run .empty with ⟨e | row, host⟩
  all_goals rw [hrun] at htaken
  · exact nomatch htaken
  obtain ⟨hout, hwheel, hscroll, hpress, hpressed⟩ := of_decide_eq_true htaken
  exact ⟨row, host, rfl, hout, ⟨_, run_of_toOption hwheel, hscroll⟩,
    ⟨_, run_of_toOption hpress, hpressed⟩⟩

theorem overflowing_wheel_taken : ∃ row host q, overflowing.run .empty = (.ok row, host) ∧
    row.bounds.Excludes ⟨120, 24⟩ ∧
    (TabRow.handleEvent (.scroll ⟨120, 24⟩ 5 0)).run (row, host) = (.ok true, q) ∧
    q.1.scroll = row.scroll + 5 := by
  obtain ⟨row, host, hrun, hout, ⟨q, hwheel, hscroll⟩, -⟩ := overflowing_run
  exact ⟨row, host, q, hrun, hout, hwheel, hscroll⟩

theorem events_outside_overhanging : ∃ row host q layout index,
    overflowing.run .empty = (.ok row, host) ∧
    (InputEvent.pointerDown ⟨120, 24⟩).PointsAt ⟨120, 24⟩ ∧ row.bounds.Excludes ⟨120, 24⟩ ∧
    (TabRow.handleEvent (.pointerDown ⟨120, 24⟩)).run (row, host) = (.ok true, q) ∧
    q.1.pressed = some index ∧ 0 < layout.maxScroll ∧
    TabRow.ShownAt row ⟨120, 24⟩ layout index q.1.scroll := by
  obtain ⟨row, host, hrun, hout, -, q, hpress, -⟩ := overflowing_run
  have houtside := (events_outside (.press ⟨120, 24⟩)).2 (row, host) hout
  rw [ends_of_run hpress] at houtside
  cases houtside with
  | left untaken => exact (untaken rfl).elim
  | press scrollable laid shown overflows beside pressed =>
    exact ⟨row, host, q, _, _, hrun, .press _, hout, hpress, pressed, overflows, shown⟩

end Widgetry
