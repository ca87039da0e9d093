import Widgetry.Proofs.Tabs.Core
import Widgetry.Proofs.Tabs.Offset
import Widgetry.Proofs.Tabs.Tracking

/-! After a layout, whatever a program does to a row but restyling it, the indicator goes to the
selected tab. An operation that fails has sent it nowhere, or sends it back. -/
namespace Widgetry

open Step (At)

variable {α σ τ β : Type} [Scalar α]

namespace TabRow

/-- Laid out as it stands, the row has its indicator on its way to where it belongs, or there. -/
def Aligned (metrics : FontHandle → String → TextMetrics α) (row : TabRow α σ (Timing α)) : Prop :=
  ∃ layout target, Lays metrics row layout ∧ Targets metrics row layout target ∧
    row.positionChannel.Tracks row.indicatorStart target.1 ∧
    row.widthChannel.Tracks row.indicatorWidth target.2

/-- Aligned, if there is a place to be aligned in, and at an offset that may be scrolled to. -/
structure Poised (metrics : FontHandle → String → TextMetrics α) (row : TabRow α σ (Timing α)) :
    Prop where
  scroll : Admissible row.scroll
  aligned : ¬row.bounds.isDegenerate → Aligned metrics row

variable {metrics : FontHandle → String → TextMetrics α} {row row' : TabRow α σ (Timing α)} {h : σ}
  {layout : TabLayout α} {target : α × α} {selected previous : Option Nat}

theorem Sent.aligned (hs : Sent row target row') (hl : Lays metrics row layout)
    (ht : Targets metrics row layout target) : Aligned metrics row' := by
  cases hs with
  | sent position width => exact ⟨layout, target, hl, ht, position, width⟩

theorem Sent.poised (hs : Sent row target row') (hscroll : Admissible row.scroll)
    (hl : Lays metrics row layout) (ht : Targets metrics row layout target) :
    Poised metrics row' where
  scroll := by
    cases hs
    exact hscroll
  aligned _ := hs.aligned hl ht

theorem Poised.scrolled [HasOffsets α] (hp : Poised metrics row) {offset scroll contentWidth : α}
    (hs : layout.clampScroll offset = .ok scroll) :
    Poised metrics { row with scroll, contentWidth } where
  scroll := TabLayout.admissible_of_clampScroll hs
  aligned := hp.aligned

variable [TextHost α σ] [HasOffsets α] (hu : Unfailing metrics σ)
include hu

theorem ends_resnap_aligned :
    Ends resnap (row, h) fun r p =>
      match r with
      | .ok () => Poised metrics p.1
      | .error _ => p.1 = row := by
  rw [resnap]
  refine (ends_currentLayout_lays hu).bind ?_ fun _ _ hp => hp.1
  rintro layout ⟨_, h₁⟩ ⟨rfl, hlays⟩
  rw [ends_bind, Step.ends_self]
  refine .of_check (fun scroll hscroll => ?_) fun _ _ => rfl
  refine (ends_syncIndicator hu false).bind ?_ fun _ _ hp => hp.1
  rintro ⟨⟩ p ⟨target, htarget, hsent⟩
  have haligned : Aligned metrics p.1 := hsent.aligned ((hlays layout).mp rfl) htarget
  exact ⟨TabLayout.admissible_of_clampScroll hscroll, fun _ => haligned⟩

/-- The old selection has a target in the layout it was made in, so a row goes back there. -/
theorem ends_rollBack_poised (hscroll : Admissible row.scroll) (hl : Lays metrics row layout)
    (ht : ¬row.bounds.isDegenerate →
      ∃ target, Targets metrics { row with selected := previous } layout target) :
    Ends (rollBack previous layout) (row, h) fun r p => r = .ok () ∧ Poised metrics p.1 := by
  rw [rollBack, ends_bind, Step.ends_update]
  refine (ends_syncIndicator hu false).tryCatch ?_ ?_
  · rintro ⟨⟩ p ⟨target, htarget, hsent⟩
    exact ⟨rfl, hsent.poised hscroll hl htarget⟩
  · rintro e ⟨_, h₁⟩ ⟨rfl, hnone⟩
    refine ⟨rfl, hscroll, fun hplaced => ?_⟩
    obtain ⟨target, htarget⟩ := ht hplaced
    exact (hnone rfl target htarget).elim

theorem ends_selectOrRollBack_poised {accept : Step (TabRow α σ (Timing α)) σ Unit}
    (haccept : ∀ row, Keeps (At id row fun _ => True) accept) (hp : Poised metrics row)
    (hl : Lays metrics row layout) :
    Ends (selectOrRollBack selected layout accept) (row, h) fun _ p => Poised metrics p.1 := by
  -- what the old selection aims at, in the layout that the row is aligned in
  have htarget : ¬row.bounds.isDegenerate → ∃ target, Targets metrics row layout target := by
    intro hplaced
    obtain ⟨layout', target, hl', ht, -, -⟩ := hp.aligned hplaced
    obtain rfl := Gives.unique hl hl'
    exact ⟨target, ht⟩
  -- a refusal comes before the indicator is sent or after it is; only the indicator can differ
  have hbody : Ends (do syncIndicator layout true; accept) ({ row with selected }, h) fun r p =>
      match r with
      | .ok () => Poised metrics p.1
      | .error _ => Admissible p.1.scroll ∧ Lays metrics p.1 layout ∧ (¬p.1.bounds.isDegenerate →
          ∃ target, Targets metrics { p.1 with selected := row.selected } layout target) := by
    refine (ends_syncIndicator hu true).bind ?_ ?_
    · rintro ⟨⟩ ⟨row', h₁⟩ ⟨target, htarget', hsent⟩
      apply (haccept row' (row', h₁) ⟨rfl, trivial⟩).imp
      rintro (e | ⟨⟩) ⟨row₂, h₂⟩ ⟨hsame, -⟩
      all_goals obtain rfl : row₂ = row' := hsame
      · cases hsent with
        | sent => exact ⟨hp.scroll, hl, htarget⟩
      · exact hsent.poised hp.scroll hl htarget'
    · rintro e ⟨_, h₁⟩ ⟨rfl, -⟩
      exact ⟨hp.scroll, hl, htarget⟩
  rw [selectOrRollBack, ends_bind, Step.ends_self]
  dsimp only
  rw [ends_bind, Step.ends_update]
  refine hbody.tryCatch (fun ⟨⟩ _ hq => hq) ?_
  rintro e ⟨row', h'⟩ ⟨hscroll, hlays, hback⟩
  refine (ends_rollBack_poised hu hscroll hlays hback).bind ?_ ?_
  · exact fun _ _ hq => hq.2
  · exact fun _ _ hq => hq.2

theorem poised_setSelected (selected : Option Nat) :
    Keeps (fun p => Poised metrics p.1)
      (setSelected selected : Step (TabRow α σ (Timing α)) σ Unit) := by
  rintro ⟨row, h⟩ (hp : Poised metrics row)
  rw [setSelected, ends_bind, Step.ends_self]
  refine .of_check (fun _ _ => ?_) fun _ _ => hp
  dsimp only
  split
  next hdegenerate => exact ⟨hp.scroll, fun hplaced => (hplaced hdegenerate).elim⟩
  · refine (ends_currentLayout_lays hu).bind ?_ fun _ _ hq => hq.1 ▸ hp
    rintro layout ⟨_, h₁⟩ ⟨rfl, hlays⟩
    exact ends_selectOrRollBack_poised hu (fun _ => .pure _) hp ((hlays layout).mp rfl)

theorem poised_setItems (items : List String) :
    Keeps (fun p => Poised metrics p.1)
      (setItems items : Step (TabRow α σ (Timing α)) σ Unit) := by
  rintro ⟨row, h⟩ (hp : Poised metrics row)
  rw [ends_setItems_iff]
  split
  next hdegenerate => exact ⟨hp.scroll, fun hplaced => (hplaced hdegenerate).elim⟩
  · apply (ends_resnap_aligned hu).imp
    rintro (e | ⟨⟩) q hq
    · have hback : q.1.restore row = row := by
        rw [hq]
        rfl
      rw [hback]
      apply (ends_resnap_aligned hu).imp
      rintro (e' | ⟨⟩) q hq
      · exact hq ▸ hp
      · exact hq
    · exact hq

/-- A layout that succeeds aligns the row, whatever it was before. -/
theorem ends_layout_poised (bounds : Rect α) :
    Ends (TabRow.layout bounds) (row, h) fun r p =>
      match r with
      | .ok () => Poised metrics p.1
      | .error _ => Poised metrics row → Poised metrics p.1 := by
  rw [TabRow.layout]
  refine .of_check (fun _ _ => ?_) fun _ _ hp => hp
  rw [ends_bind, Step.ends_self]
  refine hu.ends_measured_bind (row.style.computeLayout · row.items bounds)
    (fun hm => row.style.echoes_computeLayout hm row.items bounds) ?_ ?_
  · intro layout h₁ hlays
    refine .of_check (fun scroll hscroll => ?_) fun _ _ hp => hp
    rw [ends_bind, ends_tryCatch]
    apply (ends_syncIndicator hu false).imp
    rintro (e | ⟨⟩) ⟨row', h₂⟩ hsync
    · obtain ⟨rfl, -⟩ := hsync
      dsimp only
      split
      · exact fun hp => hp
      · rw [ends_bind, Step.ends_attempt]
        apply (ends_resnap_aligned hu).imp
        rintro (e' | ⟨⟩) q hq
        · obtain rfl := hq
          exact fun hp => hp
        · exact fun _ => hq
    · obtain ⟨target, htarget, hsent⟩ := hsync
      cases hsent with
      | sent position width =>
        exact ⟨TabLayout.admissible_of_clampScroll hscroll,
          fun _ => ⟨layout, target, hlays, htarget, position, width⟩⟩
  · exact fun _ _ _ hp => hp

theorem ends_hit_poised (point : Point) (hp : Poised metrics row) :
    Ends (hit point) (row, h) fun r p => Poised metrics p.1 ∧
      ∀ layout index, r = .ok (layout, index) → Lays metrics p.1 layout := by
  rw [hit]
  refine (ends_currentLayout_lays hu).bind ?_ fun _ _ hq => ⟨hq.1 ▸ hp, nofun⟩
  rintro layout ⟨row', h₁⟩ ⟨rfl, hlays⟩
  rw [ends_bind, Step.ends_self]
  refine .of_check (fun scroll hscroll => ?_) fun _ _ => ⟨hp, nofun⟩
  rw [ends_bind, Step.ends_update]
  have hscrolled : Poised metrics { row' with scroll } := hp.scrolled hscroll
  rw [ends_bind, Step.ends_self]
  refine .of_check (fun measurer _ => ?_) fun _ _ => ⟨hscrolled, nofun⟩
  rw [ends_bind, Step.ends_host]
  apply (ends_run _ _).imp
  rintro (e | index) h₂ -
  · exact ⟨hscrolled, nofun⟩
  · refine ⟨hscrolled, ?_⟩
    rintro _ _ ⟨⟩
    exact (hlays layout).mp rfl

omit hu [TextHost α σ] [HasOffsets α] in
theorem poised_release :
    Keeps (fun p => Poised metrics p.1) (release : Step (TabRow α σ (Timing α)) σ Unit) :=
  Step.keeps_update fun _ _ hp => ⟨hp.scroll, hp.aligned⟩

theorem poised_onPointerDown (point : Point) :
    Keeps (fun p => Poised metrics p.1)
      (onPointerDown point : Step (TabRow α σ (Timing α)) σ Bool) := by
  rintro ⟨row, h⟩ (hp : Poised metrics row)
  rw [onPointerDown]
  refine (ends_hit_poised hu point hp).bind ?_ fun _ _ hq => hq.1
  rintro ⟨layout, index⟩ q ⟨hq, -⟩
  rw [ends_bind, Step.ends_self]
  dsimp only
  split
  · exact hq
  · cases index with
    | none => exact hq
    | some index => exact ⟨hq.scroll, hq.aligned⟩

theorem poised_onPointerUp (point : Point) :
    Keeps (fun p => Poised metrics p.1)
      (onPointerUp point : Step (TabRow α σ (Timing α)) σ Bool) := by
  rintro ⟨row, h⟩ (hp : Poised metrics row)
  rw [onPointerUp]
  refine (ends_hit_poised hu point hp).bind ?_ fun _ _ hq => hq.1
  rintro ⟨layout, index⟩ ⟨row', h₁⟩ ⟨hq, hlays⟩
  rw [ends_bind, Step.ends_self]
  dsimp only
  cases row'.pressed with
  | none => exact hq
  | some pressed =>
    have htap : Ends (if index = some pressed then commit pressed layout else pure ()) (row', h₁)
        fun _ p => Poised metrics p.1 := by
      split
      · rw [commit, ends_bind, Step.ends_self]
        refine ends_selectOrRollBack_poised hu (fun row => ?_) hq (hlays layout index rfl)
        cases row'.onSelect with
        | none => exact .pure _
        | some listener => exact Step.keeps_at_host (.of_true _)
      · exact hq
    have hcaught : Ends (tryCatch (if index = some pressed then commit pressed layout else pure ())
        fun e => do release; throw e) (row', h₁) fun _ p => Poised metrics p.1 :=
      htap.tryCatch (fun _ _ hp' => hp') fun e p hp' =>
        (poised_release.bind fun _ => .throw e) p hp'
    refine hcaught.bind (fun _ p hp' => ?_) fun _ _ hp' => hp'
    exact (poised_release.bind fun _ => .pure true) p hp'

theorem poised_setScroll (offset : α) :
    Keeps (fun p => Poised metrics p.1)
      (setScroll offset : Step (TabRow α σ (Timing α)) σ Unit) := by
  refine .ite (fun _ => .throw _) fun _ => ?_
  refine Step.keeps_self_bind fun row₀ _ _ => ?_
  cases row₀.style.mode with
  | fixed => exact Step.keeps_update fun _ _ hp => ⟨HasOffsets.zero, hp.aligned⟩
  | scrollable =>
    rintro ⟨row, h⟩ (hp : Poised metrics row)
    dsimp only
    refine (ends_currentLayout_lays hu).bind ?_ fun _ _ hq => hq.1 ▸ hp
    rintro layout ⟨_, h₁⟩ ⟨rfl, -⟩
    exact .of_check (fun scroll hscroll => hp.scrolled hscroll) fun _ _ => hp

theorem poised_onScroll (dx : Int) :
    Keeps (fun p => Poised metrics p.1) (onScroll dx : Step (TabRow α σ (Timing α)) σ Bool) := by
  refine Step.keeps_self_bind fun row _ _ => ?_
  refine .ite (fun _ => .pure _) fun _ => ?_
  exact (poised_setScroll hu _).bind fun _ => .pure _

theorem poised_handleEvent (event : InputEvent) :
    Keeps (fun p => Poised metrics p.1)
      (handleEvent event : Step (TabRow α σ (Timing α)) σ Bool) := by
  intro p hp
  by_cases hd : p.1.flags.has WidgetFlags.disabled
  · exact (ends_handleEvent_disabled hd).mpr hp
  rw [ends_handleEvent hd]
  cases event with
  | scroll point dx dy => exact poised_onScroll hu dx p hp
  | pointerDown point => exact poised_onPointerDown hu point p hp
  | pointerUp point => exact poised_onPointerUp hu point p hp
  | pointerMove _ => exact hp
  | keyDown _ => exact hp
  | keyUp _ => exact hp

end TabRow

end Widgetry
