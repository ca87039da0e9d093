import Widgetry.Proofs.Tabs.Phantoms
import Widgetry.Recorder

/-! A row that has been laid out can be painted. Where nothing is refused, a layout once computed is
computed again from the same style, items and bounds, and everything that starts from it succeeds,
however labels measure. -/
namespace Widgetry

variable {σ τ : Type}

/-- Errors of tabs about a negative width, height or position. -/
inductive NegativeGeometry : Error → Prop
  | itemWidth : NegativeGeometry (.range .itemWidth)
  | tabContentWidth : NegativeGeometry (.range .tabContentWidth)
  | indicatorGeometry : NegativeGeometry (.range .indicatorGeometry)
  | tabRectangle : NegativeGeometry (.range .tabRectangle)

theorem NegativeGeometry.phantom {e : Error} (h : NegativeGeometry e) : Phantom e := by
  cases h with
  | itemWidth => exact .itemWidth
  | tabContentWidth => exact .tabContentWidth
  | indicatorGeometry => exact .indicatorGeometry
  | tabRectangle => exact .tabRectangle

/-- The painter draws whatever it is asked for. -/
structure DrawsAll (τ : Type) [PaintHost Binary32 τ] : Prop where
  rect : ∀ r color (corner : Binary32), Succeeds (PaintHost.drawRect r color corner : HostM τ Unit)
  text : ∀ font text (x y : Binary32) color,
    Succeeds (PaintHost.drawText font text x y color : HostM τ Unit)

variable {metrics : FontHandle → String → TextMetrics Binary32} {bad : Error → Prop}

section Unfailing

variable [TextHost Binary32 τ] [PaintHost Binary32 τ] (hu : Unfailing metrics τ) (hd : DrawsAll τ)
include hu

omit [PaintHost Binary32 τ] in
theorem Unfailing.succeeds_measureText (font : FontHandle) (text : String) :
    Succeeds (TextHost.measureText font text : HostM τ (TextMetrics Binary32)) := by
  refine succeeds_of_ends fun h => (hu.measureText font text h).imp ?_
  rintro _ _ (rfl | hloss)
  · exact ⟨metrics font text, rfl⟩
  · exact hloss.1.elim

include hd

theorem Unfailing.shows : Shows bad τ (Timing Binary32) where
  measureText font text := (hu.succeeds_measureText font text).mono fun _ _ => trivial
  drawRect r color corner := (hd.rect r color corner).mono fun _ _ => trivial
  drawText font text x y color := (hd.text font text x y color).mono fun _ _ => trivial
  begin start target _ easing := Timing.averts_begin start target easing
  value := Step.yields_self_bind fun _ _ _ => .pure trivial

theorem Unfailing.serves (hbad : ∀ e, bad e → NegativeGeometry e) :
    Serves bad τ (Timing Binary32) where
  toShows := hu.shows hd
  createFont style hstyle h _ := by
    apply (hu.createFont style h hstyle).imp
    rintro _ _ ⟨font, rfl⟩
    exact ⟨trivial, trivial⟩
  destroyFont font h _ := by
    apply (hu.destroyFont font h).imp
    rintro _ _ rfl
    exact ⟨trivial, trivial⟩
  step := Timing.averts_step fun e he => (hbad e he).phantom

namespace TabRow

variable {row : TabRow Binary32 τ (Timing Binary32)} {l : TabLayout Binary32}

omit hu hd [TextHost Binary32 τ] [PaintHost Binary32 τ] in
theorem Lays.computes (hl : Lays metrics row l) : row.style.Computes row.items row.bounds l := by
  obtain ⟨handle, -, hrun⟩ := hl
  exact (ends_of_run hrun).mp (row.style.ends_computeLayout_computes row.items row.bounds ()) l rfl

omit hd [PaintHost Binary32 τ] in
/-- What has a layout, the host lays out whenever it is asked to. -/
theorem Lays.sound (hl : Lays metrics row l) : row.view.Sound (fun _ => True) τ := by
  have hstyle := TabStyle.nonNeg_of_validate hl.computes.style
  obtain ⟨handle, hf, hrun⟩ := hl
  have hnonneg : l.NonNeg := by
    have hyields : Yields (fun _ => False) (fun _ => True) TabLayout.NonNeg
        (row.style.computeLayout (fun text => pure (metrics handle text) : Measurer Binary32 Unit)
          row.items row.bounds) :=
      TabStyle.yields_computeLayout (fun _ => False.elim) (fun _ => .pure trivial) _ _
    exact ((ends_of_run hrun).mp (hyields () trivial)).2
  refine ⟨hstyle, fun _ => ?_, ?_⟩
  · exact Option.isSome_of_eq_some hf
  · intro measurer hm h _
    obtain ⟨handle', hf', rfl⟩ := OwnedFont.measurer_eq_ok.mp hm
    obtain rfl := Option.some.inj (hf.symm.trans hf')
    apply (row.style.echoes_computeLayout (hu.measureText handle) row.items row.bounds h).imp
    rintro r _ (hr | hloss)
    · rw [hr, hrun]
      exact ⟨trivial, hnonneg⟩
    · exact hloss.1.elim

omit hu hd [TextHost Binary32 τ] [PaintHost Binary32 τ] in
theorem Targets.fits {target : Binary32 × Binary32} (ht : Targets metrics row l target) :
    Fits row.items.length row.selected := by
  obtain ⟨handle, -, hrun⟩ := ht
  intro index hindex
  by_contra hout
  unfold TabStyle.indicatorTarget at hrun
  rw [hindex] at hrun
  dsimp only at hrun
  rw [List.getElem?_eq_none (Nat.le_of_not_lt hout)] at hrun
  exact nomatch hrun

omit hd in
theorem LaidOut.ready {hear : TabListener σ → TabListener τ}
    {p : TabRow Binary32 τ (Timing Binary32) × τ} (hp : LaidOut hear p)
    (placed : ¬p.1.bounds.isDegenerate) :
    (∃ layout, Lays metrics p.1 layout) ∧
      Ready (fun _ => True) p.1.view p.1.onSelect p.1 := by
  have hpoised := hp.poised hu
  obtain ⟨layout, target, hl, ht, -, -⟩ := hpoised.aligned placed
  exact ⟨⟨layout, hl⟩, rfl, hpoised.scroll, fun _ => ht.fits, rfl⟩

end TabRow

end Unfailing

/-- On a host and a painter that refuse nothing, a row that was laid out, and not restyled since,
has a layout, and nothing that starts from it fails. No operation, nor the making of a row, ends in
an error about negative geometry, unless a listener answers it. -/
theorem TabRow.laid_out_paints [TextHost Binary32 τ] [PaintHost Binary32 τ]
    (hu : Unfailing metrics τ) (hd : DrawsAll τ) (hear : TabListener σ → TabListener τ) :
    (∀ p : TabRow Binary32 τ (Timing Binary32) × τ, LaidOut hear p → ¬p.1.bounds.isDegenerate →
      (∃ layout, Lays metrics p.1 layout ∧ Ends currentLayout p fun r _ => r = .ok layout) ∧
      Ends paint p (fun r _ => r = .ok ()) ∧
      (∀ selected, Fits p.1.items.length selected →
        Ends (setSelected selected) p fun r _ => r = .ok ()) ∧
      (∀ offset, Admissible offset → Ends (setScroll offset) p fun r _ => r = .ok ()) ∧
      Ends (TabRow.layout p.1.bounds) p fun r _ => r = .ok ()) ∧
    (∀ style items selected (positionChannel widthChannel : Timing Binary32) (h : τ),
      Ends (create style items selected positionChannel widthChannel) h fun r _ =>
        Avoids NegativeGeometry r) ∧
    ∀ p : TabRow Binary32 τ (Timing Binary32) × τ, Reachable hear p →
      (∀ listener, p.1.onSelect = some listener →
        ∀ index, Averts NegativeGeometry (listener index)) →
      ∀ op : TabOp Binary32 σ, Ends (op.run hear) p fun r _ => Avoids NegativeGeometry r := by
  have hphantom (e : Error) (he : NegativeGeometry e) : Phantom e := he.phantom
  have hserves : Serves NegativeGeometry τ (Timing Binary32) := hu.serves hd fun _ h => h
  refine ⟨fun p hp placed => ?_, fun style items selected positionChannel widthChannel h => ?_,
    fun p hp polite op => ?_⟩
  · obtain ⟨⟨layout, hl⟩, hready⟩ := hp.ready hu placed
    have hsound := hl.sound hu
    have hshows : Shows (fun _ => True) τ (Timing Binary32) := hu.shows hd
    have succeeds {act : Step (TabRow Binary32 τ (Timing Binary32)) τ Unit}
        (ha : Smooth (fun _ => True) p.1.view p.1.onSelect (fun _ => True) act) :
        Ends act p fun r _ => r = .ok () := (ha.avoids hready).imp fun _ _ hr => hr.isOk
    refine ⟨⟨layout, hl, ?_⟩, succeeds (smooth_paint hsound hshows), fun selected hs => ?_,
      fun offset ho => succeeds (smooth_setScroll hsound ho), ?_⟩
    · exact (ends_currentLayout_lays hu).imp fun _ _ hr => (hr.2 layout).mpr hl
    · exact succeeds (smooth_setSelected hsound hshows fun _ => hs)
    · have hbounds : Avoids (fun _ => True) p.1.bounds.validate := by
        rw [hl.computes.bounds]
        exact .ok ()
      exact (avoids_layout hsound hshows hbounds hsound hready).imp fun _ _ hr => hr.isOk
  · exact avoids_create hphantom hserves style items selected positionChannel widthChannel h
  · exact avoids_run hphantom hserves hear op (fun _ hb => nomatch hb) hp polite

/-- Widths that are no number, negative and infinite, and heights that are no better. -/
def oddMetrics (_ : FontHandle) (text : String) : TextMetrics Binary32 :=
  if text = "one" then ⟨.nan, -16, .infinite true⟩
  else if text = "two" then ⟨-5, .nan, 12⟩
  else ⟨.infinite false, 16, .nan⟩

/-- A surface knows nothing of text. -/
instance : TextHost Binary32 (Recorder Binary32) where

abbrev Oddity := Granted oddMetrics (Recorder Binary32)

theorem drawsAll_oddity : DrawsAll Oddity where
  rect _ _ _ _ _ := ⟨trivial, trivial⟩
  text _ _ _ _ _ _ _ := ⟨trivial, trivial⟩

def oddTabs : HostM Oddity (TabRow Binary32 Oddity (Timing Binary32)) :=
  TabRow.create { TabStyle.scrollable with text := .withFamily "Sans" } ["one", "two", "three"]
    (some 1) .idle .idle

/-- Tabs with such labels can be laid out, and then painted. -/
theorem TabRow.laid_out_paints_odd :
    ∃ p : TabRow Binary32 Oddity (Timing Binary32) × Oddity, LaidOut id p ∧ Reachable id p ∧
      ¬p.1.bounds.isDegenerate ∧ p.1.selected = some 1 ∧
      Ends paint p (fun r _ => r = .ok ()) ∧
      Ends (setSelected (some 2)) p (fun r _ => r = .ok ()) ∧
      ∀ op : TabOp Binary32 Oddity, Ends (op.run id) p fun r _ => Avoids NegativeGeometry r := by
  have hstate : (match oddTabs.run ⟨.empty⟩ with
      | (.ok row, host) =>
        let out := (TabRow.layout ⟨0, 0, 100, 48⟩).run (row, host)
        decide (out.1.toOption = some () ∧ out.2.1.bounds.isDegenerate = false ∧
          out.2.1.selected = some 1 ∧ out.2.1.items.length = 3 ∧ out.2.1.onSelect.isNone)
      | (.error _, _) => false) = true := by decide +kernel
  rcases hmake : oddTabs.run ⟨.empty⟩ with ⟨e | row, host⟩
  all_goals rw [hmake] at hstate
  · exact nomatch hstate
  obtain ⟨hok, hplaced, hselected, hcount, hquiet⟩ := of_decide_eq_true hstate
  have hrun := run_of_toOption hok
  have hreached : Reachable id ((TabRow.layout ⟨0, 0, 100, 48⟩).run (row, host)).2 :=
    .operated (TabOp.layout (σ := Oddity) ⟨0, 0, 100, 48⟩) (.created hmake)
  have hp : LaidOut id ((TabRow.layout ⟨0, 0, 100, 48⟩).run (row, host)).2 := .laid hrun
  generalize ((TabRow.layout ⟨0, 0, 100, 48⟩).run (row, host)).2 = p at *
  obtain ⟨hlaid, -, hall⟩ := laid_out_paints (σ := Oddity) Granted.unfailing drawsAll_oddity id
  have hplaced : ¬p.1.bounds.isDegenerate := by simp [hplaced]
  obtain ⟨-, hpaint, hselect, -⟩ := hlaid p hp hplaced
  refine ⟨p, hp, hreached, hplaced, hselected, hpaint, hselect (some 2) ?_, ?_⟩
  · rw [hcount]
    exact fits_some (by decide)
  · refine hall p hreached fun listener hlistener => ?_
    rw [hlistener] at hquiet
    exact (Bool.false_ne_true hquiet).elim

end Widgetry
