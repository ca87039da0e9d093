import Widgetry.Proofs.Host.Scripted
import Widgetry.Proofs.Host.Sketch
import Widgetry.Proofs.Tabs.LaidOut
import Widgetry.Proofs.Tabs.NonNeg

/-! The bar that a row paints under its selected tab. Bar and tab are computed apart, one from the
indicator and one from the labels; where the indicator is at rest, they agree. -/
namespace Widgetry

open Step (At)

variable {α σ : Type}

theorem TabStyle.ends_computeLayout_height {s : TabStyle Binary32} {measurer : Measurer Binary32 σ}
    {items : List String} {bounds : Rect Binary32} {h : σ} :
    Ends (s.computeLayout measurer items bounds) h fun r _ =>
      ∀ l, r = .ok l → ¬l.tabHeight < 0 := by
  refine .of_check (fun _ _ => ?_) fun _ _ _ hr => (error_ne_ok hr).elim
  refine .of_check (fun _ _ => ?_) fun _ _ _ hr => (error_ne_ok hr).elim
  refine .of_check (fun available _ => ?_) fun _ _ _ hr => (error_ne_ok hr).elim
  rw [ends_bind]
  apply (ends_run _ _).imp
  rintro (e | extents) _ -
  · exact fun _ hr => (error_ne_ok hr).elim
  refine .of_check (fun band hband => ?_) fun _ _ _ hr => (error_ne_ok hr).elim
  rw [ends_bind]
  apply (ends_run _ _).imp
  rintro (e | ⟨tabWidth, contentWidth⟩) _ -
  · exact fun _ hr => (error_ne_ok hr).elim
  dsimp only
  split
  · exact fun _ hr => (error_ne_ok hr).elim
  · rintro _ ⟨⟩
    exact Row.fitBand_height hband

variable [Scalar α]

/-- A tab is where the indicator goes for it, as far as the row is scrolled. -/
theorem TabStyle.itemRect_of_target {s : TabStyle α} {measurer : Measurer α Unit}
    {items : List String} {l : TabLayout α} {index : Nat} {start width : α}
    (ht : (s.indicatorTarget measurer items l (some index)).run () = (.ok (start, width), ()))
    (hl : ¬l.tabHeight < 0) (scroll : α) :
    ∃ rect, (s.itemRect measurer items l index scroll).run () = (.ok rect, ()) ∧
      rect.x = (match l.mode with
        | .fixed => l.startX + start
        | .scrollable => l.startX + start - scroll) ∧ rect.width = width := by
  have hends : Ends (s.indicatorTarget measurer items l (some index)) () fun r _ =>
      r = .ok (start, width) := congrArg Prod.fst ht
  suffices hrect : Ends (s.itemRect measurer items l index scroll) () fun r _ =>
      ∃ rect, r = .ok rect ∧ rect.x = (match l.mode with
        | .fixed => l.startX + start
        | .scrollable => l.startX + start - scroll) ∧ rect.width = width by
    obtain ⟨rect, hr, hx, hw⟩ := hrect
    exact ⟨rect, Prod.ext hr rfl, hx, hw⟩
  unfold indicatorTarget at hends
  unfold itemRect
  dsimp only at hends
  cases hitem : items[index]? with
  | none =>
    rw [hitem] at hends
    exact (error_ne_ok hends).elim
  | some item =>
    rw [hitem] at hends
    dsimp only at hends ⊢
    rw [ends_bind] at hends ⊢
    rcases hspan : (s.itemSpan measurer items l index item).run () with ⟨e | ⟨start', width'⟩, _⟩
    all_goals rw [ends_of_run hspan] at hends ⊢
    · exact (error_ne_ok hends).elim
    · dsimp only at hends ⊢
      split at hends
      · exact (error_ne_ok hends).elim
      next hgeometry =>
        obtain ⟨rfl, rfl⟩ := Prod.mk.inj (Except.ok.inj hends)
        rw [if_neg fun h => h.elim (fun hw => hgeometry (.inr hw)) hl]
        exact ⟨_, rfl, rfl, rfl⟩

namespace TabRow

/-- Tab `index` on the screen, as labels measure. -/
def Places (metrics : FontHandle → String → TextMetrics α) (row : TabRow α σ (Timing α))
    (layout : TabLayout α) (index : Nat) (scroll : α) (rect : Rect α) : Prop :=
  Gives metrics row.font (fun m => row.style.itemRect m row.items layout index scroll) rect

/-- What is painted behind the tabs. -/
def backdrop (row : TabRow α σ (Timing α)) : List (RectRun α) :=
  if row.style.background.isVisible then [⟨row.bounds, row.style.background, 0⟩] else []

/-- The bar at the indicator, if one is shown. -/
def bars (row : TabRow α σ (Timing α)) (layout : TabLayout α) : List (RectRun α) :=
  if row.selected.isSome ∧ 0 < row.style.indicatorThickness then
    [⟨row.indicatorBar layout, row.indicatorColor, row.style.indicatorCorner⟩]
  else []

section Paint

variable {τ : Type} {row : TabRow α (Sketched α τ) (Timing α)} {t : Sketched α τ}
  {layout : TabLayout α} {scroll : α} {metrics : FontHandle → String → TextMetrics α}

theorem asksFor_paintBackground [PaintHost α τ] :
    Sketched.AsksFor row.backdrop row.paintBackground := by
  unfold backdrop paintBackground
  split
  · exact Sketched.asksFor_drawRect ⟨row.bounds, row.style.background, 0⟩
  · exact Sketched.asksFor_pure

theorem asksFor_paintIndicator [PaintHost α τ] (layout : TabLayout α) :
    Sketched.AsksFor (row.bars layout) (row.paintIndicator layout) := by
  unfold bars paintIndicator
  split
  · exact Sketched.asksFor_drawRect
      ⟨row.indicatorBar layout, row.indicatorColor, row.style.indicatorCorner⟩
  · exact Sketched.asksFor_pure

variable [TextHost α τ]

omit [Scalar α] in
theorem measures_sketched (font : OwnedFont) (strokes : List (Stroke α)) :
    font.Measures α fun t : Sketched α τ => t.strokes = strokes :=
  fun _ _ _ => Sketched.keeps_lift _

/-- Timings ask nothing of a host. -/
theorem calls_timing {font : OwnedFont} {inv : σ → Prop} [TextHost α σ]
    (hm : font.Measures α inv) : Calls (Timing α) font inv where
  measureText := hm
  begin start target duration easing := by
    rintro ⟨t, h⟩ hi
    rw [Timing.ends_begin]
    split
    · exact hi
    · exact hi
  step dt := by
    rintro ⟨t, h⟩ hi
    rw [Timing.ends_advance]
    split
    · exact hi
    · exact hi
  value := fun _ hi => hi

/-- Labels ask for no rectangle, so all there is are the background and the bar. -/
theorem ends_strokes [PaintHost α τ] :
    Ends (do
        let row ← Step.self
        Step.host row.paintBackground
        Step.host (row.paintIndicator layout)
        let font ← Step.check row.font.handle
        Step.host (row.paintLabels font layout 0 row.items)) (row, t) fun _ q =>
      q.1 = row ∧ ∃ strokes, q.2.strokes = t.strokes ++ strokes ∧
        Asked (row.backdrop ++ row.bars layout) strokes := by
  rw [ends_bind, Step.ends_self]
  dsimp only
  rw [ends_bind, Step.ends_host]
  apply (asksFor_paintBackground t).imp
  rintro (e | ⟨⟩) t₁ ⟨strokes, ht₁, hasked⟩
  · exact ⟨rfl, strokes, ht₁, hasked _⟩
  subst hasked
  dsimp only
  rw [ends_bind, Step.ends_host]
  apply (asksFor_paintIndicator layout t₁).imp
  rintro (e | ⟨⟩) t₂ ⟨strokes, ht₂, hasked⟩
  all_goals rw [ht₁, List.append_assoc] at ht₂
  · refine ⟨rfl, _, ht₂, Asked.append ?_ _⟩
    simpa only [List.append_nil] using hasked []
  subst hasked
  have hall : Asked (row.backdrop ++ row.bars layout)
      (row.backdrop.map (⟨·, true⟩) ++ (row.bars layout).map (⟨·, true⟩)) := by
    simpa only [List.append_nil] using (Asked.nil.append (row.bars layout)).append row.backdrop
  have hlabels : Keeps (At id row fun t' => t'.strokes = t₂.strokes) (do
      let font ← Step.check row.font.handle
      Step.host (row.paintLabels font layout 0 row.items) :
      Step (TabRow α (Sketched α τ) (Timing α)) (Sketched α τ) Unit) := by
    refine (Step.keeps_check _).bind fun font => Step.keeps_at_host ?_
    exact keeps_paintLabels (fun _ => Sketched.keeps_lift _) (fun _ _ _ _ => Sketched.keeps_lift _)
      layout 0 row.items
  apply (hlabels (row, t₂) ⟨rfl, rfl⟩).imp
  rintro r q ⟨hq, hstrokes⟩
  exact ⟨hq, _, hstrokes.trans ht₂, hall⟩

theorem ends_paint_asked [PaintHost α τ] (hu : Unfailing metrics (Sketched α τ))
    (hl : Lays metrics row layout) (hs : layout.clampScroll row.scroll = .ok scroll) :
    Ends paint (row, t) fun _ q => q.1.scroll = scroll ∧
      ∃ strokes, q.2.strokes = t.strokes ++ strokes ∧
        Asked (row.backdrop ++ bars { row with scroll } layout) strokes := by
  have hkept : Keeps (At core row.core fun t' => t'.strokes = t.strokes)
      (currentLayout : Step (TabRow α (Sketched α τ) (Timing α)) _ _) :=
    keeps_currentLayout (calls_timing (measures_sketched row.font t.strokes))
  have hlayout : Ends (currentLayout : Step (TabRow α (Sketched α τ) (Timing α)) _ _) (row, t) _ :=
    ends_currentLayout_lays hu
  rw [paint, ends_bind]
  apply ((hkept (row, t) ⟨rfl, rfl⟩).and hlayout).imp
  rintro r ⟨_, t₁⟩ ⟨⟨-, hstrokes⟩, rfl, hlays⟩
  obtain rfl := (hlays layout).mpr hl
  dsimp only at hstrokes ⊢
  rw [ends_bind, Step.ends_self]
  refine .of_check (fun scroll' hs' => ?_) fun e he => (error_ne_ok (he.symm.trans hs)).elim
  obtain rfl := Except.ok.inj (hs'.symm.trans hs)
  rw [ends_bind, Step.ends_update]
  apply ends_strokes.imp
  rintro r q ⟨hq, strokes, ht, hasked⟩
  rw [hstrokes] at ht
  exact ⟨congrArg scroll hq, strokes, ht, hasked⟩

end Paint

section Agreement

variable {row : TabRow Binary32 σ (Timing Binary32)} {layout : TabLayout Binary32}
  {metrics : FontHandle → String → TextMetrics Binary32} {start shown offset scroll : Binary32}

/-- Fixed tabs do not scroll, but their bar is computed as if they did, by nothing. -/
theorem alike_start (hs : layout.clampScroll offset = .ok scroll) (h : Alike start shown) :
    Alike (match layout.mode with
      | .fixed => layout.startX + start
      | .scrollable => layout.startX + start - scroll) (layout.startX + shown - scroll) := by
  obtain ⟨-, hscroll⟩ := TabLayout.clampScroll_eq_ok.mp hs
  have hsum : Alike (layout.startX + start) (layout.startX + shown) := h.add_left _
  cases hmode : layout.mode with
  | fixed =>
    rw [hmode] at hscroll
    dsimp only at hscroll ⊢
    have hzero : (0 : Binary32) = Binary.zero false := by decide +kernel
    rw [hscroll, hzero]
    exact hsum.trans (Binary.alike_sub_zero _).symm
  | scrollable => exact hsum.sub_right scroll

theorem exists_places {index : Nat} {target : Binary32 × Binary32} (hl : Lays metrics row layout)
    (ht : Targets metrics row layout target) (hselected : row.selected = some index)
    (scroll : Binary32) :
    ∃ rect, Places metrics row layout index scroll rect ∧
      rect.x = (match layout.mode with
        | .fixed => layout.startX + target.1
        | .scrollable => layout.startX + target.1 - scroll) ∧ rect.width = target.2 := by
  obtain ⟨handle, hf, hrun⟩ := ht
  obtain ⟨_, -, hlaid⟩ := hl
  have hheight : ¬layout.tabHeight < 0 :=
    (ends_of_run hlaid).mp TabStyle.ends_computeLayout_height layout rfl
  rw [hselected] at hrun
  obtain ⟨rect, hrect, hx, hwidth⟩ := TabStyle.itemRect_of_target hrun hheight scroll
  exact ⟨rect, ⟨handle, hf, hrect⟩, hx, hwidth⟩

end Agreement

end TabRow

/-- Since its layout, whatever else a program has done to a row than restyle it, the channels are
bound for the selected tab. Where they are at rest, the bar that the row paints, at any offset, lies
on that tab. No selection has no bar. -/
theorem TabRow.bar_on_selected {σ : Type} [TextHost Binary32 σ] [PaintHost Binary32 σ]
    {metrics : FontHandle → String → TextMetrics Binary32} (hu : Unfailing metrics σ)
    {p : TabRow Binary32 (Sketched Binary32 σ) (Timing Binary32) × Sketched Binary32 σ}
    (hp : LaidOut Sketched.hear p) (placed : ¬p.1.bounds.isDegenerate) :
    ∃ layout target, Lays metrics p.1 layout ∧ Targets metrics p.1 layout target ∧
      p.1.positionChannel.target = target.1 ∧ p.1.widthChannel.target = target.2 ∧
      Admissible p.1.scroll ∧
      ∀ offset, Admissible offset → Ends paint ({ p.1 with scroll := offset }, p.2) fun _ q =>
        layout.clampScroll offset = .ok q.1.scroll ∧
        ∃ strokes, q.2.strokes = p.2.strokes ++ strokes ∧
          (p.1.selected = none → Asked p.1.backdrop strokes) ∧
          ∀ index, p.1.selected = some index → 0 < p.1.style.indicatorThickness →
            p.1.positionChannel.running = false → p.1.widthChannel.running = false →
            ∃ rect bar, Places metrics p.1 layout index q.1.scroll rect ∧
              Alike rect.x bar.bounds.x ∧ Alike rect.width bar.bounds.width ∧
              Asked (p.1.backdrop ++ [bar]) strokes := by
  obtain ⟨row, t⟩ := p
  have hpoised := hp.poised (Sketched.unfailing hu)
  obtain ⟨layout, target, hl, ht, hposition, hwidth⟩ := hpoised.aligned placed
  refine ⟨layout, target, hl, ht, hposition.aim, hwidth.aim, hpoised.scroll, fun offset ho => ?_⟩
  obtain ⟨scroll, hs⟩ : ∃ scroll, layout.clampScroll offset = .ok scroll :=
    ⟨_, TabLayout.clampScroll_eq_ok.mpr ⟨ho, rfl⟩⟩
  have hpaint : Ends paint ({ row with scroll := offset }, t) _ :=
    ends_paint_asked (Sketched.unfailing hu) hl hs
  apply hpaint.imp
  rintro r q ⟨rfl, strokes, hstrokes, hasked⟩
  refine ⟨hs, strokes, hstrokes, fun hnone => ?_, fun index hindex hthick hp hw => ?_⟩
  · have hbars : bars { row with scroll := q.1.scroll } layout = [] :=
      if_neg fun h => Bool.noConfusion (h.1.symm.trans (congrArg Option.isSome hnone))
    rw [← List.append_nil (backdrop row), ← hbars]
    exact hasked
  · obtain ⟨rect, hplaces, hx, hrectWidth⟩ := exists_places hl ht hindex q.1.scroll
    have hbars : bars { row with scroll := q.1.scroll } layout =
        [⟨indicatorBar { row with scroll := q.1.scroll } layout, row.indicatorColor,
          row.style.indicatorCorner⟩] :=
      if_pos ⟨by rw [show row.selected = some index from hindex]; rfl, hthick⟩
    have hstart : Alike target.1 row.indicatorStart := hposition.rests hp ▸ hposition.shown
    refine ⟨rect, _, hplaces, ?_, ?_, hbars ▸ hasked⟩
    · rw [hx]
      exact alike_start hs hstart
    · rw [hrectWidth]
      exact hwidth.rests hw ▸ hwidth.shown

/-- Two tabs that scroll, on a host that measures eight units a letter. -/
abbrev Stand := Sketched Binary32 (Granted (fun _ => Scripted.metrics) (Scripted Binary32))

def scrollingTabs : TabRow Binary32 Stand (Timing Binary32) × Stand :=
  (Scripted.row .scrollable ["one", "two"] .idle .idle, ⟨⟨.start []⟩, []⟩)

/-- The second tab is tapped, once in vain and then with success; the indicator arrives, and the row
is scrolled. -/
def taps : List (TabOp Binary32 (Granted (fun _ => Scripted.metrics) (Scripted Binary32))) :=
  [.setOnSelect (some fun _ => throw (.state (.host "rejected"))),
    .event (.pointerDown ⟨95, 24⟩), .event (.pointerUp ⟨95, 24⟩), .setOnSelect none,
    .event (.pointerDown ⟨95, 24⟩), .event (.pointerUp ⟨95, 24⟩), .step 1, .setScroll 30]

def tappedTab : TabRow Binary32 Stand (Timing Binary32) × Stand :=
  taps.foldl (fun p op => ((op.run Sketched.hear).run p).2)
    ((TabRow.layout ⟨0, 0, 100, 48⟩).run scrollingTabs).2

theorem TabRow.bar_on_selected_tapped :
    tappedTab.1.selected = some 1 ∧ tappedTab.1.indicator = (90, 90) ∧ tappedTab.1.scroll = 30 ∧
    ∃ layout, Lays (fun _ => Scripted.metrics) tappedTab.1 layout ∧
      Ends paint tappedTab fun _ q => ∃ rect bar strokes,
        Places (fun _ => Scripted.metrics) tappedTab.1 layout 1 q.1.scroll rect ∧
          Alike rect.x bar.bounds.x ∧ Alike rect.width bar.bounds.width ∧
          q.2.strokes = tappedTab.2.strokes ++ strokes ∧
          Asked (tappedTab.1.backdrop ++ [bar]) strokes := by
  have hstate : tappedTab.1.selected = some 1 ∧ tappedTab.1.indicator = (90, 90) ∧
      tappedTab.1.scroll = 30 ∧ tappedTab.1.bounds.isDegenerate = false ∧
      tappedTab.1.positionChannel.running = false ∧ tappedTab.1.widthChannel.running = false ∧
      0 < tappedTab.1.style.indicatorThickness := by decide +kernel
  obtain ⟨hselected, hindicator, hscroll, hplaced, hposition, hwidth, hthick⟩ := hstate
  have hlaid : ((TabRow.layout ⟨0, 0, 100, 48⟩).run scrollingTabs).1.toOption = some () := by
    decide +kernel
  have hp : LaidOut Sketched.hear tappedTab := by
    unfold tappedTab
    exact LaidOut.after (.laid (run_of_toOption hlaid)) taps (by simp [taps])
  -- nothing that follows depends on how the row came to this state
  generalize tappedTab = p at *
  obtain ⟨layout, -, hl, -, -, -, hadmissible, hpaint⟩ := bar_on_selected Granted.unfailing hp
    (by simp [hplaced])
  refine ⟨hselected, hindicator, hscroll, layout, hl, ?_⟩
  apply (hpaint p.1.scroll hadmissible).imp
  rintro r q ⟨-, strokes, hstrokes, -, hbar⟩
  obtain ⟨rect, bar, hplaces, hx, hw, hasked⟩ := hbar 1 hselected hthick hposition hwidth
  exact ⟨rect, bar, strokes, hplaces, hx, hw, hstrokes, hasked⟩

end Widgetry
