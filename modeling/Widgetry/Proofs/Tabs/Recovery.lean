import Widgetry.Proofs.Host.Outcomes
import Widgetry.Proofs.Tabs.Relayout
import Widgetry.Proofs.Tabs.View

/-! A layout or new items that fail keep the row. The channels may have been sent somewhere else by
then, but snapping the indicator starts both of them anew, so a way back that goes through leaves
the row as a layout of the kept items in the kept bounds would. -/
namespace Widgetry

variable {α σ : Type} [Scalar α] [TextHost α σ] [Gate σ]

namespace Gated

/-- Asks for a call, if there is a gate to ask. -/
def asks (g : Gated α) (ask : Lane → HostM σ Unit) : HostM σ Unit :=
  match g.lane with
  | some lane => ask lane
  | none => pure ()

variable {β : Type} {g : Gated α} {h : σ}

omit [Scalar α] [TextHost α σ] [Gate σ] in
theorem attains_pass {ask : Lane → HostM σ Unit} {act : Step (Timing α) σ β}
    {post : β → Gated α × σ → Prop} :
    Attains (pass ask act) (g, h) post ↔ Attains (g.asks ask) h fun _ h' =>
      Attains act (g.timing, h') fun b p => post b ({ g with timing := p.1 }, p.2) := by
  obtain ⟨_ | lane, timing⟩ := g
  · rw [asks, attains_pure]
    exact Iff.rfl
  · rw [pass, attains_bind, Step.attains_self]
    dsimp only [asks]
    rw [attains_bind, Step.attains_host]
    exact Iff.rfl

omit [TextHost α σ] in
theorem attains_begin_landed [HasZero α] (value : α) {post : Unit → Gated α × σ → Prop} :
    Attains (Channel.begin value value 0 .linear : Step (Gated α) σ Unit) (g, h) post ↔
      Attains (g.asks Gate.begin) h fun _ h' =>
        post () ({ g with timing := .landed value }, h') := by
  change Attains (pass Gate.begin (Timing.beginStep value value 0 .linear)) (g, h) post ↔ _
  simp only [attains_pass, Timing.beginStep, Timing.begin_landed, attains_bind,
    Step.attains_check, Step.attains_update, Except.ok.injEq, exists_eq_left']

omit [TextHost α σ] in
theorem attains_value {post : α → Gated α × σ → Prop} :
    Attains (Channel.value : Step (Gated α) σ α) (g, h) post ↔
      Attains (g.asks Gate.value) h fun _ h' => post g.timing.current (g, h') := by
  change Attains (pass Gate.value (do return (← Step.self).current)) (g, h) post ↔ _
  simp only [attains_pass, attains_bind, Step.attains_self, attains_pure]

omit [Scalar α] [TextHost α σ] [Gate σ] in
/-- A call behind a gate changes the timing at most. -/
theorem keeps_pass {inv : Gated α × σ → Prop} {ask : Lane → HostM σ Unit}
    {act : Step (Timing α) σ β}
    (hinv : ∀ (g : Gated α) timing h h', inv (g, h) → inv ({ g with timing }, h')) :
    Keeps inv (pass ask act) := by
  rintro ⟨g, h⟩ hg
  refine ends_pass (fun _ h' => hinv g g.timing h h' hg) fun h' => ?_
  exact (ends_run _ _).imp fun _ _ _ => hinv g _ h _ hg

end Gated

namespace TabRow

/-- Where a row is laid out: its tabs, its scroll offset and its indicator. -/
structure Place (α : Type) where
  layout : TabLayout α
  scroll : α
  target : α × α

/-- The row without what its channels have been told. -/
def untimed (row : TabRow α σ (Gated α)) : TabRow α σ (Gated α) :=
  { row with
    positionChannel := { row.positionChannel with timing := .idle }
    widthChannel := { row.widthChannel with timing := .idle } }

/-- What placing the indicator asks of the host: its target, and four calls to the channels. -/
def aiming (row : TabRow α σ (Gated α)) (layout : TabLayout α) : HostM σ (α × α) := do
  let measurer ← liftExcept row.font.measurer
  let target ← row.style.indicatorTarget measurer row.items layout row.selected
  row.positionChannel.asks Gate.begin
  row.widthChannel.asks Gate.begin
  row.positionChannel.asks Gate.value
  row.widthChannel.asks Gate.value
  return target

/-- What laying the row out in these bounds asks of the host. -/
def placing (row : TabRow α σ (Gated α)) (bounds : Rect α) : HostM σ (Place α) := do
  let measurer ← liftExcept row.font.measurer
  let layout ← row.style.computeLayout measurer row.items bounds
  let scroll ← liftExcept (layout.clampScroll row.scroll)
  let target ← row.aiming layout
  return ⟨layout, scroll, target⟩

def snapped (row : TabRow α σ (Gated α)) (target : α × α) : TabRow α σ (Gated α) :=
  { row with
    positionChannel := { row.positionChannel with timing := .landed target.1 }
    widthChannel := { row.widthChannel with timing := .landed target.2 }
    indicatorStart := target.1
    indicatorWidth := target.2 }

def placed (row : TabRow α σ (Gated α)) (bounds : Rect α) (place : Place α) :
    TabRow α σ (Gated α) :=
  { row.snapped place.target with
    bounds, scroll := place.scroll, contentWidth := place.layout.contentWidth }

variable {row row' : TabRow α σ (Gated α)} {h : σ} {layout : TabLayout α} {bounds : Rect α}
  {post : Unit → TabRow α σ (Gated α) × σ → Prop}

/-- The place of the row in these bounds; with labels that measure alike there is but one. -/
structure PlaceOf (row : TabRow α σ (Gated α)) (bounds : Rect α) (place : Place α) : Prop where
  layout : LayoutOf σ { row.view with bounds } place.layout
  scroll : place.layout.clampScroll row.scroll = .ok place.scroll
  target : TargetOf row.core place.layout place.target

theorem placeOf_of_run {place : Place α} {h' : σ}
    (hrun : (row.placing bounds).run h = (.ok place, h')) : PlaceOf row bounds place := by
  have hattains := attains_run.mpr hrun
  simp only [placing, aiming, attains_bind, attains_liftExcept] at hattains
  obtain ⟨measurer, hm, hattains⟩ := hattains
  obtain ⟨layout, h₁, hlayout, scroll, hscroll, measurer', hm', hattains⟩ :=
    attains_iff.mp hattains
  obtain rfl : measurer = measurer' := Except.ok.inj (hm.symm.trans hm')
  obtain ⟨target, h₂, htarget, hattains⟩ := attains_iff.mp hattains
  simp only [attains_pure] at hattains
  obtain ⟨_, _, -, hattains⟩ := attains_iff.mp hattains
  obtain ⟨_, _, -, hattains⟩ := attains_iff.mp hattains
  obtain ⟨_, _, -, hattains⟩ := attains_iff.mp hattains
  obtain ⟨_, _, -, rfl, -⟩ := attains_iff.mp hattains
  exact ⟨layoutOf_of_run hm hlayout, hscroll, targetOf_of_run hm htarget⟩

omit [Gate σ] in
theorem PlaceOf.unique {place place' : Place α} {measurer : Measurer α σ}
    {metrics : String → TextMetrics α} (hp : PlaceOf row bounds place)
    (hp' : PlaceOf row bounds place') (hm : row.font.measurer = .ok measurer)
    (ha : Answers measurer metrics) : place' = place := by
  obtain ⟨layout, scroll, target⟩ := place
  obtain ⟨layout', scroll', target'⟩ := place'
  obtain rfl : layout' = layout := Except.ok.inj (congrArg Prod.fst
    ((hp'.layout.pinned measurer metrics hm ha).symm.trans
      (hp.layout.pinned measurer metrics hm ha)))
  obtain rfl : scroll' = scroll := Except.ok.inj (hp'.scroll.symm.trans hp.scroll)
  obtain rfl : target' = target := Except.ok.inj (congrArg Prod.fst
    ((hp'.target.pinned measurer metrics hm ha).symm.trans
      (hp.target.pinned measurer metrics hm ha)))
  rfl

section Success

variable [HasZero α]

theorem attains_sync : Attains (syncIndicator layout false) (row, h) post ↔
    Attains (row.aiming layout) h fun target h' => post () (row.snapped target, h') := by
  simp only [syncIndicator, aiming, onPosition, onWidth, attains_bind, Step.attains_self,
    Step.attains_check, Step.attains_host, attains_liftExcept, Step.attains_zoom,
    Step.attains_update, Bool.false_eq_true, if_false, Gated.attains_begin_landed,
    Gated.attains_value, attains_pure]
  exact Iff.rfl

theorem attains_resnap : Attains resnap (row, h) post ↔
    Attains (row.placing row.bounds) h fun place h' =>
      post () (row.placed row.bounds place, h') := by
  simp only [resnap, currentLayout, placing, attains_bind, Step.attains_self, Step.attains_check,
    Step.attains_host, attains_liftExcept, Step.attains_update, attains_sync, attains_pure]
  exact Iff.rfl

theorem attains_layout : Attains (TabRow.layout bounds) (row, h) post ↔
    Attains (row.placing bounds) h fun place h' => post () (row.placed bounds place, h') := by
  have hthrows {P : Unit → TabRow α σ (Gated α) × σ → Prop} (e : Error)
      (q : TabRow α σ (Gated α) × σ) : ¬Attains (if row.bounds.isDegenerate then throw e
        else do Step.attempt resnap; throw e) q P := by
    split
    · exact attains_throw e
    · intro hp
      obtain ⟨_, _, -, hthrow⟩ := attains_iff.mp ((attains_bind _).mp hp)
      exact attains_throw e hthrow
  have hiff : Attains (TabRow.layout bounds) (row, h) post ↔ bounds.validate = .ok () ∧
      Attains (row.placing bounds) h fun place h' => post () (row.placed bounds place, h') := by
    simp only [TabRow.layout, placing, attains_bind, attains_tryCatch hthrows, Step.attains_self,
      Step.attains_check, Step.attains_host, attains_liftExcept, Step.attains_update,
      attains_sync, attains_pure]
    constructor
    · rintro ⟨⟨⟩, hvalid, hp⟩
      exact ⟨hvalid, hp⟩
    · rintro ⟨hvalid, hp⟩
      exact ⟨(), hvalid, hp⟩
  refine hiff.trans ⟨And.right, fun hp => ⟨?_, hp⟩⟩
  obtain ⟨place, _, hrun, -⟩ := attains_iff.mp hp
  exact (placeOf_of_run hrun).layout.computes.bounds

end Success

section Failure

variable {k : TabRow α σ (Gated α)} {β : Type}

omit [TextHost α σ] [Gate σ] in
/-- A call of a channel that keeps its lane cannot be seen where its timing is left out. -/
theorem keeps_untimed_onPosition {act : Step (Gated α) σ β}
    (ha : ∀ lane, Keeps (fun q : Gated α × σ => q.1.lane = lane) act) :
    Keeps (fun p : TabRow α σ (Gated α) × σ => p.1.untimed = k) (onPosition act) := by
  refine Step.keeps_zoom (fun _ => rfl) fun row => ?_
  rintro ⟨g, h⟩ hk
  apply (ha g.lane (g, h) rfl).imp
  rintro _ ⟨g', h'⟩ (hlane : g'.lane = g.lane)
  rw [← hk]
  simp only [untimed, hlane]

omit [TextHost α σ] [Gate σ] in
theorem keeps_untimed_onWidth {act : Step (Gated α) σ β}
    (ha : ∀ lane, Keeps (fun q : Gated α × σ => q.1.lane = lane) act) :
    Keeps (fun p : TabRow α σ (Gated α) × σ => p.1.untimed = k) (onWidth act) := by
  refine Step.keeps_zoom (fun _ => rfl) fun row => ?_
  rintro ⟨g, h⟩ hk
  apply (ha g.lane (g, h) rfl).imp
  rintro _ ⟨g', h'⟩ (hlane : g'.lane = g.lane)
  rw [← hk]
  simp only [untimed, hlane]

theorem leaves_sync (animate : Bool) :
    Leaves (fun p : TabRow α σ (Gated α) × σ => p.1.untimed = k)
      (syncIndicator layout animate) := by
  have hpass {β : Type} (ask : Lane → HostM σ Unit) (act : Step (Timing α) σ β)
      (lane : Option Lane) :
      Keeps (fun q : Gated α × σ => q.1.lane = lane) (Gated.pass ask act) :=
    Gated.keeps_pass fun _ _ _ _ hlane => hlane
  refine Step.leaves_self fun row h _ => ?_
  refine .bind (Step.keeps_check _) fun measurer => ?_
  refine .bind (Step.keeps_host fun _ s hs => (ends_run _ _).imp fun _ _ _ => hs) fun target => ?_
  dsimp only
  split
  all_goals
    refine .bind (keeps_untimed_onPosition (hpass _ _)) fun _ => ?_
    refine .bind (keeps_untimed_onWidth (hpass _ _)) fun _ => ?_
    refine .bind (keeps_untimed_onPosition (hpass _ _)) fun _ => ?_
    refine .bind (keeps_untimed_onWidth (hpass _ _)) fun _ => ?_
    exact Step.leaves_update _

theorem leaves_resnap :
    Leaves (fun p : TabRow α σ (Gated α) × σ => p.1.untimed = k) resnap := by
  have hlayout : Keeps (fun p : TabRow α σ (Gated α) × σ => p.1.untimed = k) currentLayout := by
    rintro ⟨row, h⟩ hk
    apply ends_currentLayout_of.imp
    rintro _ ⟨_, h'⟩ ⟨rfl, -⟩
    exact hk
  refine .bind hlayout fun layout => ?_
  refine Step.leaves_self fun row _ _ => ?_
  refine .bind (Step.keeps_check _) fun scroll => ?_
  intro p hp
  refine (leaves_sync false p hp).bind ?_ fun e q hq => ?_
  · exact fun _ _ _ => nofun
  · exact fun _ _ => hq e rfl

end Failure

omit [TextHost α σ] [Gate σ] in
/-- The row that is laid out is the one without its timings. -/
theorem placed_untimed (row : TabRow α σ (Gated α)) (bounds : Rect α) (place : Place α) :
    row.untimed.placed bounds place = row.placed bounds place := rfl

theorem placing_untimed (row : TabRow α σ (Gated α)) (bounds : Rect α) :
    row.untimed.placing bounds = row.placing bounds := rfl

section Recovery

variable [HasZero α] {p q start : TabRow α σ (Gated α) × σ} {op : Relayout α}

/-- The first attempt of the operation has failed, and from `start` the row is laid out once more
where it was: always after new items, and after a layout whose indicator could not be placed. -/
inductive Relayout.Retries (p : TabRow α σ (Gated α) × σ) :
    Relayout α → TabRow α σ (Gated α) × σ → Prop
  | bounds {bounds : Rect α} {measurer : Measurer α σ} {layout : TabLayout α} {scroll : α} {h : σ}
      {e : Error} {start : TabRow α σ (Gated α) × σ} (measured : p.1.font.measurer = .ok measurer)
      (computed : (p.1.style.computeLayout measurer p.1.items bounds).run p.2 = (.ok layout, h))
      (clamped : layout.clampScroll p.1.scroll = .ok scroll)
      (failed : (syncIndicator layout false).run (p.1, h) = (.error e, start))
      (kept : ¬p.1.bounds.isDegenerate) : Retries p (.bounds bounds) start
  | items {items : List String} {e : Error} {q : TabRow α σ (Gated α) × σ}
      (kept : ¬p.1.bounds.isDegenerate)
      (failed : resnap.run (p.1.refill items, p.2) = (.error e, q)) :
      Retries p (.items items) (q.1.restore p.1, q.2)

omit [HasZero α] in
/-- Up to there only the channels have been touched. -/
theorem Relayout.Retries.untimed (hr : Retries p op start) : start.1.untimed = p.1.untimed := by
  cases hr with
  | bounds measured computed clamped failed kept =>
    exact (ends_of_run failed).mp (leaves_sync false _ rfl) _ rfl
  | items kept failed =>
    next items e q =>
    have hrefilled : q.1.untimed = (p.1.refill items).untimed :=
      (ends_of_run failed).mp (leaves_resnap _ rfl) _ rfl
    change q.1.untimed.restore p.1 = _
    rw [hrefilled]
    rfl

omit [HasZero α] in
theorem Relayout.Retries.run_eq (hr : Retries p op start) :
    ∃ e, op.run.run p = (.error e, (resnap.run start).2) := by
  suffices hends : ∃ e, Ends op.run p fun r q => r = .error e ∧ q = (resnap.run start).2 by
    obtain ⟨e, he, hq⟩ := hends
    exact ⟨e, Prod.ext he hq⟩
  cases hr with
  | @bounds bounds measurer layout scroll h e start measured computed clamped failed kept =>
    have hvalid : bounds.validate = .ok () :=
      (layoutOf_of_run (v := { p.1.view with bounds }) measured computed).computes.bounds
    refine ⟨e, ?_⟩
    rw [Relayout.run, TabRow.layout, ends_bind, Step.ends_check, hvalid]
    dsimp only
    rw [ends_bind, Step.ends_self]
    dsimp only
    rw [ends_bind, Step.ends_check, measured]
    dsimp only
    rw [ends_bind, Step.ends_host, ends_of_run computed]
    dsimp only
    rw [ends_bind, Step.ends_check, clamped]
    dsimp only
    rw [ends_bind, ends_tryCatch, ends_of_run failed]
    dsimp only
    rw [if_neg kept, ends_bind, Step.ends_attempt]
    exact ⟨rfl, rfl⟩
  | @items items e q kept failed =>
    refine ⟨e, ?_⟩
    have hends : Ends (setItems items) (p.1, p.2) fun r q' => r = .error e ∧
        q' = (resnap.run (q.1.restore p.1, q.2)).2 := by
      rw [ends_setItems_iff, if_neg kept, ends_of_run failed]
      exact ⟨rfl, rfl⟩
    exact hends

/-- Snapping a row whose channels alone have been touched is laying out the row as it was. -/
theorem layout_of_resnap (hsame : start.1.untimed = p.1.untimed)
    (hrun : resnap.run start = (.ok (), q)) :
    (TabRow.layout p.1.bounds).run (p.1, start.2) = (.ok (), q) := by
  obtain ⟨row, h⟩ := start
  have hbounds : p.1.bounds = row.bounds := (congrArg TabRow.bounds hsame).symm
  have hplacing : p.1.placing row.bounds = row.placing row.bounds := by
    rw [← placing_untimed, ← hsame, placing_untimed]
  have hplaced (place : Place α) :
      p.1.placed row.bounds place = row.placed row.bounds place := by
    rw [← placed_untimed, ← hsame, placed_untimed]
  rw [← attains_run, attains_layout, hbounds, hplacing]
  simpa only [hplaced] using attains_resnap.mp (attains_run.mpr hrun)

/-- With labels that measure alike, whenever it is laid out there the row comes out the same. -/
theorem layout_unique {measurer : Measurer α σ} {metrics : String → TextMetrics α} {h h' : σ}
    {q' : TabRow α σ (Gated α) × σ} (hm : row.font.measurer = .ok measurer)
    (ha : Answers measurer metrics) (hrun : (TabRow.layout bounds).run (row, h) = (.ok (), q))
    (hrun' : (TabRow.layout bounds).run (row, h') = (.ok (), q')) : q'.1 = q.1 := by
  obtain ⟨place, _, hplace, -, rfl⟩ :=
    attains_iff.mp (attains_layout.mp (attains_run.mpr hrun))
  obtain ⟨place', _, hplace', -, rfl⟩ :=
    attains_iff.mp (attains_layout.mp (attains_run.mpr hrun'))
  rw [(placeOf_of_run hplace).unique (placeOf_of_run hplace') hm ha]

omit [TextHost α σ] [Gate σ] [HasZero α] in
theorem frame_of_untimed {row row' : TabRow α σ (Gated α)} (h : row'.untimed = row.untimed) :
    row'.core = row.core ∧ row'.bounds = row.bounds := by
  change row'.untimed.core = row.untimed.core ∧ row'.untimed.bounds = row.untimed.bounds
  rw [h]
  exact ⟨rfl, rfl⟩

/-- A row that is laid out once more keeps its bounds, whether that fails or not. -/
theorem ends_resnap_frame (row : TabRow α σ (Gated α)) (h : σ) :
    Ends resnap (row, h) fun _ p => p.1.core = row.core ∧ p.1.bounds = row.bounds := by
  have hfailed : Ends resnap (row, h) _ := leaves_resnap (row, h) rfl
  rcases hrun : resnap.run (row, h) with ⟨e | ⟨⟩, q⟩
  all_goals rw [ends_of_run hrun] at hfailed ⊢
  · exact frame_of_untimed (hfailed e rfl)
  · obtain ⟨place, _, -, -, rfl⟩ := attains_iff.mp (attains_resnap.mp (attains_run.mpr hrun))
    exact ⟨rfl, rfl⟩

theorem ends_layout_frame (row : TabRow α σ (Gated α)) (h : σ) :
    Ends (TabRow.layout bounds) (row, h) fun r p =>
      ∀ e, r = .error e → p.1.core = row.core ∧ p.1.bounds = row.bounds := by
  rw [TabRow.layout]
  refine .of_check (fun _ _ => ?_) fun _ _ _ _ => ⟨rfl, rfl⟩
  rw [ends_bind, Step.ends_self]
  refine .of_check (fun _ _ => ?_) fun _ _ _ _ => ⟨rfl, rfl⟩
  rw [ends_bind, Step.ends_host]
  apply (ends_run _ _).imp
  rintro (e | layout) h₁ -
  · exact fun _ _ => ⟨rfl, rfl⟩
  refine .of_check (fun scroll _ => ?_) fun _ _ _ _ => ⟨rfl, rfl⟩
  rw [ends_bind, ends_tryCatch]
  apply (leaves_sync false (row, h₁) rfl).imp
  rintro (e | ⟨⟩) ⟨row', h₂⟩ huntimed
  · obtain ⟨hcore, hbounds⟩ := frame_of_untimed (huntimed e rfl)
    dsimp only
    split
    · exact fun _ _ => ⟨hcore, hbounds⟩
    · rw [ends_bind, Step.ends_attempt]
      apply (ends_resnap_frame row' h₂).imp
      exact fun _ _ hq _ _ => ⟨hq.1.trans hcore, hq.2.trans hbounds⟩
  · exact fun e he => (error_ne_ok he.symm).elim

theorem ends_setItems_frame (row : TabRow α σ (Gated α)) (h : σ) (items : List String) :
    Ends (setItems items) (row, h) fun r p =>
      ∀ e, r = .error e → p.1.core = row.core ∧ p.1.bounds = row.bounds := by
  rw [ends_setItems_iff]
  split
  · exact fun e he => (error_ne_ok he.symm).elim
  next kept =>
    have hfailed : Ends resnap (row.refill items, h) _ := leaves_resnap (row.refill items, h) rfl
    apply ((ends_run _ _).and hfailed).imp
    rintro (e | ⟨⟩) q ⟨hrun, huntimed⟩
    · have hback := frame_of_untimed (Relayout.Retries.untimed (p := (row, h)) (.items kept hrun))
      apply (ends_resnap_frame (q.1.restore row) q.2).imp
      exact fun _ _ hq _ _ => ⟨hq.1.trans hback.1, hq.2.trans hback.2⟩
    · exact fun e he => (error_ne_ok he.symm).elim

end Recovery

/-- Whatever the host and the channels refuse, a layout that fails, and new items that cannot be
set, keep what the row is about and where it is. New items are always followed by a way back; and a
way back that goes through leaves what laying out the row as it was would have left, there and then,
or, with labels that measure alike, at any time. -/
theorem relayout_keeps_or_recovers [HasZero α] {p q : TabRow α σ (Gated α) × σ} {op : Relayout α}
    {e : Error} (hfailed : op.run.run p = (.error e, q)) :
    q.1.core = p.1.core ∧ q.1.bounds = p.1.bounds ∧
      (∀ items, op = .items items → ∃ start, op.Retries p start) ∧
      ∀ start, op.Retries p start → ∃ r, resnap.run start = (r, q) ∧ (r = .ok () →
        (TabRow.layout p.1.bounds).run (p.1, start.2) = (.ok (), q) ∧
          ∀ (measurer : Measurer α σ) metrics, p.1.font.measurer = .ok measurer →
            Answers measurer metrics →
              ∀ h q', (TabRow.layout p.1.bounds).run (p.1, h) = (.ok (), q') →
                q'.1.scroll = q.1.scroll ∧ q'.1.indicator = q.1.indicator) := by
  have hframe : q.1.core = p.1.core ∧ q.1.bounds = p.1.bounds := by
    cases op with
    | bounds bounds =>
      exact (ends_of_run hfailed).mp (ends_layout_frame p.1 p.2) e rfl
    | items items =>
      exact (ends_of_run hfailed).mp (ends_setItems_frame p.1 p.2 items) e rfl
  refine ⟨hframe.1, hframe.2, ?_, fun start hretries => ?_⟩
  · rintro items rfl
    have hends : Ends (setItems items) (p.1, p.2) fun r _ => r = .error e :=
      congrArg Prod.fst hfailed
    rw [ends_setItems_iff] at hends
    split at hends
    · exact (error_ne_ok hends.symm).elim
    next kept =>
      rcases hrun : resnap.run (p.1.refill items, p.2) with ⟨e' | ⟨⟩, q'⟩
      · exact ⟨_, .items kept hrun⟩
      · rw [ends_of_run hrun] at hends
        exact (error_ne_ok hends.symm).elim
  · obtain ⟨e', hrun⟩ := hretries.run_eq
    obtain rfl : (resnap.run start).2 = q := congrArg Prod.snd (hrun.symm.trans hfailed)
    refine ⟨_, rfl, fun hok => ?_⟩
    have hlaid := layout_of_resnap hretries.untimed (Prod.ext hok rfl)
    refine ⟨hlaid, fun measurer metrics hm ha h q' hrun' => ?_⟩
    rw [layout_unique hm ha hlaid hrun']
    exact ⟨rfl, rfl⟩

/-- The host refuses to send the second channel after the new items, and then refuses nothing. -/
theorem recovers_from_refused_items : ∃ e q start,
    (Relayout.items ["uno", "due"]).run.run refusedBounds = (.error e, q) ∧
      (Relayout.items ["uno", "due"]).Retries refusedBounds start ∧
      (TabRow.layout refusedBounds.1.bounds).run (refusedBounds.1, start.2) = (.ok (), q) := by
  have kept : ¬refusedBounds.1.bounds.isDegenerate := by decide +kernel
  have hrefused : ((resnap : Step (TabRow Binary32 (Scripted Binary32) (Gated Binary32)) _ _).run
      (refusedBounds.1.refill ["uno", "due"], refusedBounds.2)).1.isOk = false := by
    decide +kernel
  have hback : ((resnap : Step (TabRow Binary32 (Scripted Binary32) (Gated Binary32)) _ _).run
      ((resnap.run (refusedBounds.1.refill ["uno", "due"], refusedBounds.2)).2.1.restore
        refusedBounds.1, (resnap.run (refusedBounds.1.refill ["uno", "due"],
          refusedBounds.2)).2.2)).1.toOption = some () := by
    decide +kernel
  rcases hrun : resnap.run (refusedBounds.1.refill ["uno", "due"], refusedBounds.2)
    with ⟨e | ⟨⟩, torn⟩
  all_goals rw [hrun] at hrefused hback
  · have hretries : (Relayout.items ["uno", "due"]).Retries refusedBounds _ := .items kept hrun
    obtain ⟨e', hfailed⟩ := hretries.run_eq
    obtain ⟨-, -, -, hrecovers⟩ := relayout_keeps_or_recovers hfailed
    obtain ⟨r, hr, hlaid⟩ := hrecovers _ hretries
    have hok : r = .ok () := by
      have hsame := run_of_toOption hback
      exact congrArg Prod.fst (hr.symm.trans hsame)
    exact ⟨e', _, _, hfailed, hretries, (hlaid hok).1⟩
  · exact nomatch hrefused

end TabRow

end Widgetry
