import Widgetry.Proofs.Host.Echoes
import Widgetry.Proofs.Tabs.Core

/-! The layout of a row as it stands. Style, items, font and bounds decide it; it is the one a host
has answered, and the only one that a host which measures alike ever answers. What moves the
indicator or the selection leaves it alone, and the scroll offset too. -/
namespace Widgetry

open Step (At)

variable {α σ χ β : Type} [Scalar α]

/-- What a layout of these items in these bounds has been checked for and made of. -/
structure TabStyle.Computes (s : TabStyle α) (items : List String) (bounds : Rect α)
    (l : TabLayout α) : Prop where
  style : s.validate false = .ok ()
  bounds : bounds.validate = .ok ()
  mode : l.mode = s.mode
  spacing : l.spacing = s.spacing
  band : ∃ natural top room,
    Row.fitBand natural top room items.length = .ok ⟨l.startY, l.tabHeight⟩
  width : match s.mode with
    | .fixed => ∃ room, Row.evenWidth room s.spacing items.length = .ok l.tabWidth
    | .scrollable => l.tabWidth = 0

theorem TabStyle.ends_widths_shape (s : TabStyle α) {measurer : Measurer α σ} (items : List String)
    (available : α) (h : σ) :
    Ends (s.widths measurer items available) h fun r _ => ∀ tabWidth contentWidth,
      r = .ok (tabWidth, contentWidth) →
        match s.mode with
        | .fixed => ∃ room, Row.evenWidth room s.spacing items.length = .ok tabWidth
        | .scrollable => tabWidth = 0 := by
  unfold widths
  cases s.mode with
  | fixed =>
    refine .of_check (fun width hwidth => ?_) fun _ _ _ _ hr => (error_ne_ok hr).elim
    rintro _ _ ⟨⟩
    exact ⟨available, hwidth⟩
  | scrollable =>
    rw [ends_bind]
    apply (ends_run _ _).imp
    rintro (e | run) _ -
    · exact fun _ _ hr => (error_ne_ok hr).elim
    · rintro _ _ ⟨⟩
      rfl

theorem TabStyle.ends_computeLayout_computes (s : TabStyle α) {measurer : Measurer α σ}
    (items : List String) (bounds : Rect α) (h : σ) :
    Ends (s.computeLayout measurer items bounds) h fun r _ =>
      ∀ l, r = .ok l → s.Computes items bounds l := by
  refine .of_check (fun _ hstyle => ?_) fun _ _ _ hr => (error_ne_ok hr).elim
  refine .of_check (fun _ hbounds => ?_) fun _ _ _ hr => (error_ne_ok hr).elim
  refine .of_check (fun available _ => ?_) fun _ _ _ hr => (error_ne_ok hr).elim
  rw [ends_bind]
  apply (ends_run _ _).imp
  rintro (e | extents) _ -
  · exact fun _ hr => (error_ne_ok hr).elim
  refine .of_check (fun band hband => ?_) fun _ _ _ hr => (error_ne_ok hr).elim
  refine (s.ends_widths_shape items available.width _).bind ?_ fun _ _ _ _ hr =>
    (error_ne_ok hr).elim
  rintro ⟨tabWidth, contentWidth⟩ _ hwidth
  dsimp only
  split
  · exact fun _ hr => (error_ne_ok hr).elim
  · rintro _ ⟨⟩
    exact ⟨hstyle, hbounds, rfl, rfl, ⟨_, _, _, hband⟩, hwidth _ _ rfl⟩

/-- What decides the layout of a row. -/
structure TabView (α : Type) where
  style : TabStyle α
  items : List String
  font : OwnedFont
  bounds : Rect α

namespace TabRow

def view (row : TabRow α σ χ) : TabView α := ⟨row.style, row.items, row.font, row.bounds⟩

/-- The layout of such a row. -/
structure LayoutOf (σ : Type) [TextHost α σ] (v : TabView α) (l : TabLayout α) : Prop where
  answered : ∃ (measurer : Measurer α σ) (s s' : σ), v.font.measurer = .ok measurer ∧
    (v.style.computeLayout measurer v.items v.bounds).run s = (.ok l, s')
  pinned : ∀ (measurer : Measurer α σ) metrics, v.font.measurer = .ok measurer →
    Answers measurer metrics →
    (v.style.computeLayout (fun text => pure (metrics text)) v.items v.bounds).run () = (.ok l, ())

section

variable [TextHost α σ] {v : TabView α} {l : TabLayout α}

theorem layoutOf_of_run {measurer : Measurer α σ} {s s' : σ} (hm : v.font.measurer = .ok measurer)
    (hrun : (v.style.computeLayout measurer v.items v.bounds).run s = (.ok l, s')) :
    LayoutOf σ v l := by
  refine ⟨⟨measurer, s, s', hm, hrun⟩, fun measurer' metrics hm' hanswers => ?_⟩
  obtain rfl : measurer = measurer' := Except.ok.inj (hm.symm.trans hm')
  have hmirrors := mirrors_iff.mpr
    (v.style.echoes_computeLayout hanswers.echoes v.items v.bounds) s
  rw [ends_of_run hrun] at hmirrors
  exact hmirrors l rfl

theorem LayoutOf.computes (hl : LayoutOf σ v l) : v.style.Computes v.items v.bounds l := by
  obtain ⟨measurer, s, s', -, hrun⟩ := hl.answered
  exact (ends_of_run hrun).mp (v.style.ends_computeLayout_computes v.items v.bounds s) l rfl

/-- The layout of the row in bounds that it may not have yet. -/
theorem ends_measured_layout {row : TabRow α σ χ} (bounds : Rect α) {p : TabRow α σ χ × σ}
    {measurer : Measurer α σ} (hm : row.font.measurer = .ok measurer) :
    Ends (Step.host (row.style.computeLayout measurer row.items bounds) :
      Step (TabRow α σ χ) σ _) p fun r q => q.1 = p.1 ∧
        ∀ l, r = .ok l → LayoutOf σ { row.view with bounds } l := by
  rw [Step.ends_host]
  apply (ends_run _ _).imp
  rintro r _ hrun
  refine ⟨rfl, ?_⟩
  rintro l rfl
  exact layoutOf_of_run hm hrun

theorem ends_currentLayout_of [Channel α σ χ] {row : TabRow α σ χ} {h : σ} :
    Ends (currentLayout : Step (TabRow α σ χ) σ _) (row, h) fun r q =>
      q.1 = row ∧ ∀ l, r = .ok l → LayoutOf σ row.view l := by
  rw [currentLayout, ends_bind, Step.ends_self]
  refine .of_check (fun measurer hm => ?_) fun _ _ => ⟨rfl, nofun⟩
  exact ends_measured_layout row.bounds hm

end

/-- What a row shows of its items: their layout, and how far it is scrolled. -/
def shown (row : TabRow α σ χ) : TabView α × α := (row.view, row.scroll)

variable {k : TabView α × α}

section Unmoved

variable {row : TabRow α σ χ} {h : σ}

omit [Scalar α] in
theorem unmoved_onPosition (act : Step χ σ β) :
    Keeps (At shown k fun _ => True) (onPosition act : Step (TabRow α σ χ) σ β) :=
  Step.keeps_at_zoom (fun _ _ => rfl) (.of_true _)

omit [Scalar α] in
theorem unmoved_onWidth (act : Step χ σ β) :
    Keeps (At shown k fun _ => True) (onWidth act : Step (TabRow α σ χ) σ β) :=
  Step.keeps_at_zoom (fun _ _ => rfl) (.of_true _)

variable [TextHost α σ] [Channel α σ χ]

theorem unmoved_syncIndicator (layout : TabLayout α) (animate : Bool) :
    Keeps (At shown k fun _ => True)
      (syncIndicator layout animate : Step (TabRow α σ χ) σ Unit) := by
  refine Step.keeps_at_self fun row _ => ?_
  refine (Step.keeps_check _).bind fun measurer => ?_
  refine (Step.keeps_at_host (.of_true _)).bind fun target => ?_
  dsimp only
  split
  all_goals
    refine (unmoved_onPosition _).bind fun _ => ?_
    refine (unmoved_onWidth _).bind fun _ => ?_
    refine (unmoved_onPosition _).bind fun _ => ?_
    refine (unmoved_onWidth _).bind fun _ => ?_
    exact Step.keeps_at_update fun _ => rfl

theorem unmoved_selectOrRollBack (selected : Option Nat) (layout : TabLayout α)
    {accept : Step (TabRow α σ χ) σ Unit} (ha : Keeps (At shown k fun _ => True) accept) :
    Keeps (At shown k fun _ => True) (selectOrRollBack selected layout accept) := by
  refine Step.keeps_at_self fun row _ => ?_
  refine Keeps.bind (Step.keeps_at_update fun _ => rfl) fun _ => ?_
  refine ((unmoved_syncIndicator layout true).bind fun _ => ha).tryCatch fun e => ?_
  refine Keeps.bind ?_ fun _ => .throw e
  refine Keeps.bind (Step.keeps_at_update fun _ => rfl) fun _ => ?_
  exact (unmoved_syncIndicator layout false).tryCatch fun _ => Step.keeps_at_update fun _ => rfl

omit [Channel α σ χ] in
theorem unmoved_currentLayout :
    Keeps (At shown k fun _ => True)
      (currentLayout : Step (TabRow α σ χ) σ (TabLayout α)) := by
  refine Step.keeps_at_self fun row _ => ?_
  exact (Step.keeps_check _).bind fun measurer => Step.keeps_at_host (.of_true _)

theorem unmoved_setSelected (selected : Option Nat) :
    Keeps (At shown k fun _ => True) (setSelected selected : Step (TabRow α σ χ) σ Unit) := by
  refine Step.keeps_at_self fun row _ => (Step.keeps_check _).bind fun _ => ?_
  refine .ite (fun _ => Step.keeps_at_update fun _ => rfl) fun _ => ?_
  refine unmoved_currentLayout.bind fun layout => ?_
  exact unmoved_selectOrRollBack selected layout (.pure ())

omit [TextHost α σ] in
theorem unmoved_step (dt : α) :
    Keeps (At shown k fun _ => True) (step dt : Step (TabRow α σ χ) σ Bool) := by
  refine .ite (fun _ => .throw _) fun _ => ?_
  refine Keeps.bind ?_ fun moved => Keeps.bind ?_ fun _ => .pure _
  · refine Step.keeps_at_self fun row _ => .ite (fun _ => .pure _) fun _ => ?_
    refine (unmoved_onPosition _).bind fun reading => .ite (fun _ => .pure _) fun _ => ?_
    exact Keeps.bind (Step.keeps_at_update fun _ => rfl) fun _ => .pure _
  · refine Step.keeps_at_self fun row _ => .ite (fun _ => .pure _) fun _ => ?_
    refine (unmoved_onWidth _).bind fun reading => .ite (fun _ => .pure _) fun _ => ?_
    exact Keeps.bind (Step.keeps_at_update fun _ => rfl) fun _ => .pure _

omit [Channel α σ χ] in
theorem unmoved_measure (width height : MeasureSpec α) :
    Keeps (At shown k fun _ => True)
      (measure width height : Step (TabRow α σ χ) σ (Size α)) := by
  refine (Step.keeps_check _).bind fun _ => (Step.keeps_check _).bind fun _ => ?_
  refine Step.keeps_at_self fun row _ => (Step.keeps_check _).bind fun measurer => ?_
  exact (Step.keeps_at_host (.of_true _)).bind fun _ => .pure _

theorem unmoved_commit (index : Nat) (layout : TabLayout α) :
    Keeps (At shown k fun _ => True) (commit index layout : Step (TabRow α σ χ) σ Unit) := by
  refine Step.keeps_at_self fun row _ => unmoved_selectOrRollBack _ layout ?_
  cases row.onSelect with
  | none => exact .pure ()
  | some listener => exact Step.keeps_at_host (.of_true _)

omit [TextHost α σ] [Channel α σ χ] [Scalar α] in
theorem unmoved_release :
    Keeps (At shown k fun _ => True) (release : Step (TabRow α σ χ) σ Unit) :=
  Step.keeps_at_update fun _ => rfl

end Unmoved

end TabRow

end Widgetry
