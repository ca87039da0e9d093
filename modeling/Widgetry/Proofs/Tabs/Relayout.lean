import Widgetry.Proofs.Host.Scripted
import Widgetry.Proofs.Operations
import Widgetry.Proofs.Tabs.Snap

/-! A layout or new items that fail after the indicator was sent somewhere else: the row is laid out
once more where it was. Only where there is no such place, or where that fails too, can a channel be
left on a target that was given up. -/
namespace Widgetry

namespace TabRow

variable {α σ : Type} [Scalar α] [TextHost α σ]

/-- With labels of these metrics, this is where the indicator belongs. -/
def Aims (c : TabCore α σ) (metrics : String → TextMetrics α) (bounds : Rect α)
    (target : α × α) : Prop :=
  ∃ l, (c.style.computeLayout (fun text => pure (metrics text)) c.items bounds).run () =
      (.ok l, ()) ∧
    (c.style.indicatorTarget (fun text => pure (metrics text)) c.items l c.selected).run () =
      (.ok target, ())

/-- The layout of the row as it stands. -/
def Laid (row : TabRow α σ (Gated α)) (layout : TabLayout α) : Prop :=
  ∃ (measurer : Measurer α σ) (s s' : σ), row.font.measurer = .ok measurer ∧
    (row.style.computeLayout measurer row.items row.bounds).run s = (.ok layout, s')

/-- The indicator is on its target, and each channel rests there or on a target that was refused. -/
structure Torn (row : TabRow α σ (Gated α)) (target refused : α × α) : Prop where
  position : row.positionChannel.timing.RestsOn target.1 ∨
    row.positionChannel.timing.RestsOn refused.1
  width : row.widthChannel.timing.RestsOn target.2 ∨ row.widthChannel.timing.RestsOn refused.2
  indicator : row.indicator = target

variable {row row' : TabRow α σ (Gated α)} {target refused : α × α} {layout : TabLayout α} {h : σ}
  {e : Error}

omit [Scalar α] [TextHost α σ] in
theorem Settled.torn (hs : Settled row target) (refused : α × α) : Torn row target refused :=
  ⟨.inl hs.position, .inl hs.width, hs.indicator⟩

/-- A sync that fails half-way tears no further. -/
theorem Torn.snapped (ht : Torn row target refused) (hs : Snapped row layout (.error e) row')
    (haim : ∀ t, TargetOf row.core layout t → t = target ∨ t = refused) :
    Torn row' target refused := by
  cases hs with
  | untouched => exact ht
  | halfway targeted position width =>
    refine ⟨?_, ?_, ht.indicator⟩
    · rcases haim _ targeted with rfl | rfl
      · exact .inl (position ▸ Timing.landed_restsOn _)
      · exact .inr (position ▸ Timing.landed_restsOn _)
    · rcases width with hsame | hlanded
      · exact hsame ▸ ht.width
      · rcases haim _ targeted with rfl | rfl
        · exact .inl (hlanded ▸ Timing.landed_restsOn _)
        · exact .inr (hlanded ▸ Timing.landed_restsOn _)

theorem Snapped.frame (hs : Snapped row layout (.error e) row') :
    row'.core = row.core ∧ row'.bounds = row.bounds := by
  cases hs with
  | untouched => exact ⟨rfl, rfl⟩
  | halfway => exact ⟨rfl, rfl⟩

theorem Settled.snapped (hs : Settled row target) (hsnap : Snapped row layout (.error e) row') :
    ∃ refused, Torn row' target refused := by
  cases hsnap with
  | untouched => exact ⟨target, hs.torn target⟩
  | @halfway _ refused _ _ targeted position width =>
    refine ⟨refused, ?_, ?_, hs.indicator⟩
    · exact .inr (position ▸ Timing.landed_restsOn _)
    · rcases width with hsame | hlanded
      · exact .inl (hsame ▸ hs.width)
      · exact .inr (hlanded ▸ Timing.landed_restsOn _)

section Answered

variable {measurer : Measurer α σ} {metrics : String → TextMetrics α}

/-- A target has one value, however often the host is asked. -/
theorem Aims.eq_of_laid (haim : Aims row.core metrics row.bounds target)
    (hm : row.font.measurer = .ok measurer) (ha : Answers measurer metrics)
    (hlaid : Laid row layout) {t : α × α} (ht : TargetOf row.core layout t) : t = target := by
  obtain ⟨l, hl, htarget⟩ := haim
  obtain ⟨measurer', s, s', hm', hrun⟩ := hlaid
  obtain rfl : measurer = measurer' := Except.ok.inj (hm.symm.trans hm')
  have hmirrors :=
    mirrors_iff.mpr (row.style.echoes_computeLayout ha.echoes row.items row.bounds) s
  rw [ends_of_run hrun] at hmirrors
  have hsame : l = layout :=
    Except.ok.inj (congrArg Prod.fst (hl.symm.trans (hmirrors layout rfl)))
  subst hsame
  exact Except.ok.inj (congrArg Prod.fst ((ht.pinned measurer metrics hm ha).symm.trans htarget))

end Answered

variable [Gate σ] [HasZero α]

/-- A row that is laid out once more comes to rest on its target, or is left by its sync. -/
theorem ends_resnap : Ends resnap (row, h) fun r p =>
    match r with
    | .ok () => ∃ layout target, Laid row layout ∧ TargetOf row.core layout target ∧
        Rests p.1 target
    | .error e => p.1 = row ∨ ∃ layout, Laid row layout ∧ Snapped row layout (.error e) p.1 := by
  have hlayout : Ends (currentLayout : Step (TabRow α σ (Gated α)) σ _) (row, h) fun r p =>
      p.1 = row ∧ ∀ layout, r = .ok layout → Laid row layout := by
    rw [currentLayout, ends_bind, Step.ends_self]
    refine .of_check (fun measurer hm => ?_) fun _ _ => ⟨rfl, nofun⟩
    rw [Step.ends_host]
    apply (ends_run _ _).imp
    rintro r h' hrun
    refine ⟨rfl, ?_⟩
    rintro layout rfl
    exact ⟨measurer, h, h', hm, hrun⟩
  rw [resnap]
  refine hlayout.bind ?_ fun e p hp => .inl hp.1
  rintro layout ⟨_, h₁⟩ ⟨rfl, hlaid⟩
  rw [ends_bind, Step.ends_self]
  refine .of_check (fun scroll _ => ?_) fun _ _ => .inl rfl
  refine ends_snap.bind ?_ fun e p hs => .inr ⟨layout, hlaid layout rfl, hs⟩
  rintro ⟨⟩ p hs
  cases hs with
  | done htarget hrests =>
    exact ⟨layout, _, hlaid layout rfl, htarget, hrests.position, hrests.width, hrests.indicator⟩

/-- What is left of a row when a new layout has failed: unless the row was laid out once more, it
may be torn between the two targets. -/
def Aftermath (row : TabRow α σ (Gated α)) (target : α × α) (q : TabRow α σ (Gated α) × σ) : Prop :=
  ∃ refused, Torn q.1 target refused ∧
    (Settled q.1 target ∨ row.bounds.isDegenerate ∨
      ∃ p e, p.1.core = row.core ∧ p.1.bounds = row.bounds ∧ resnap.run p = (.error e, q))

section Refused

variable {measurer : Measurer α σ} {metrics : String → TextMetrics α}
  (hm : row.font.measurer = .ok measurer) (ha : Answers measurer metrics)
include hm ha

/-- The way back: the row that is kept is laid out once more. -/
theorem ends_resnap_back (haim : Aims row.core metrics row.bounds target)
    {torn : TabRow α σ (Gated α)} (hcore : torn.core = row.core)
    (hbounds : torn.bounds = row.bounds) (ht : Torn torn target refused) :
    Ends resnap (torn, h) fun _ q => Aftermath row target q := by
  have haim' (layout : TabLayout α) (hlaid : Laid torn layout) (t : α × α)
      (htarget : TargetOf torn.core layout t) : t = target := by
    have hm' : torn.font.measurer = .ok measurer := by
      rwa [show torn.font = row.font from congrArg TabCore.font hcore]
    exact Aims.eq_of_laid (hcore ▸ hbounds ▸ haim) hm' ha hlaid htarget
  have hresnap : Ends resnap (torn, h) _ := ends_resnap
  rcases hrun : resnap.run (torn, h) with ⟨e | ⟨⟩, q⟩
  all_goals rw [ends_of_run hrun] at hresnap ⊢
  · refine ⟨refused, ?_, .inr (.inr ⟨(torn, h), e, hcore, hbounds, hrun⟩)⟩
    rcases hresnap with hsame | ⟨layout, hlaid, hsnapped⟩
    · exact hsame ▸ ht
    · exact ht.snapped hsnapped fun t htarget => .inl (haim' layout hlaid t htarget)
  · obtain ⟨layout, t, hlaid, htarget, hrests⟩ := hresnap
    obtain rfl := haim' layout hlaid t htarget
    exact ⟨refused, hrests.settled.torn refused, .inl hrests.settled⟩

theorem ends_layout_refused (hs : Settled row target)
    (haim : ¬row.bounds.isDegenerate → Aims row.core metrics row.bounds target) (bounds : Rect α) :
    Ends (TabRow.layout bounds) (row, h) fun r q => ∀ e, r = .error e → Aftermath row target q := by
  have hkept (h' : σ) : Aftermath row target (row, h') := ⟨target, hs.torn target, .inl hs⟩
  rw [TabRow.layout]
  refine .of_check (fun _ _ => ?_) fun _ _ _ _ => hkept h
  rw [ends_bind, Step.ends_self]
  refine .of_check (fun _ _ => ?_) fun _ _ _ _ => hkept h
  rw [ends_bind, Step.ends_host]
  apply (ends_run _ _).imp
  rintro (e | layout) h₁ -
  · exact fun _ _ => hkept h₁
  refine .of_check (fun scroll _ => ?_) fun _ _ _ _ => hkept h₁
  rw [ends_bind, ends_tryCatch]
  have hsnap : Ends (syncIndicator layout false) (row, h₁) _ := ends_snap
  apply hsnap.imp
  rintro (e | ⟨⟩) ⟨row', h₂⟩ hsnapped
  · obtain ⟨hcore, hbounds⟩ := hsnapped.frame
    obtain ⟨refused, htorn⟩ := hs.snapped hsnapped
    dsimp only
    split
    next hdegenerate =>
      exact fun _ _ => ⟨refused, htorn, .inr (.inl hdegenerate)⟩
    next hplaced =>
      rw [ends_bind, Step.ends_attempt]
      exact (ends_resnap_back hm ha (haim hplaced) hcore hbounds htorn).imp fun _ _ hq _ _ => hq
  · exact fun _ => nofun

theorem ends_setItems_refused (hs : Settled row target)
    (haim : ¬row.bounds.isDegenerate → Aims row.core metrics row.bounds target)
    (items : List String) :
    Ends (setItems items) (row, h) fun r q => ∀ e, r = .error e → Aftermath row target q := by
  rw [ends_setItems_iff]
  split
  · exact fun _ => nofun
  next hplaced =>
    have hsettled : Settled (row.refill items) target := ⟨hs.position, hs.width, hs.indicator⟩
    have hresnap : Ends resnap (row.refill items, h) _ := ends_resnap
    apply hresnap.imp
    rintro (e | ⟨⟩) ⟨row', h₁⟩ hresnapped
    · obtain ⟨refused, htorn, hcore, hbounds⟩ : ∃ refused, Torn row' target refused ∧
          row'.core = (row.refill items).core ∧ row'.bounds = row.bounds := by
        rcases hresnapped with hsame | ⟨layout, -, hsnapped⟩
        · obtain rfl : row' = row.refill items := hsame
          exact ⟨target, hsettled.torn target, rfl, rfl⟩
        · obtain ⟨refused, htorn⟩ := hsettled.snapped hsnapped
          exact ⟨refused, htorn, hsnapped.frame⟩
      have hback : (row'.restore row).core = row.core := by
        change ({ row'.core with
          items := row.items, selected := row.selected, pressed := row.pressed } : TabCore α σ) = _
        rw [hcore]
        rfl
      exact (ends_resnap_back hm ha (haim hplaced) hback hbounds
        ⟨htorn.position, htorn.width, htorn.indicator⟩).imp fun _ _ hq _ _ => hq
    · exact fun _ => nofun

end Refused

/-- An operation that places the tabs anew. -/
inductive Relayout (α : Type) where
  | bounds (bounds : Rect α)
  | items (items : List String)

def Relayout.run : Relayout α → Step (TabRow α σ (Gated α)) σ Unit
  | bounds r => TabRow.layout r
  | items list => setItems list

end TabRow

/-- Whatever a failed layout, or items that could not be set, have met with, the indicator is where
it was, and each channel rests where it did or on the target that was refused. As soon as the row
could be laid out once more where it was, no time moves the indicator. -/
theorem TabRow.relayout_refused {σ : Type} [TextHost Binary32 σ] [Gate σ]
    {p q : TabRow Binary32 σ (Gated Binary32) × σ} {measurer : Measurer Binary32 σ}
    {metrics : String → TextMetrics Binary32} {target : Binary32 × Binary32}
    (hm : p.1.font.measurer = .ok measurer) (ha : Answers measurer metrics)
    (hs : Settled p.1 target)
    (haim : ¬p.1.bounds.isDegenerate → Aims p.1.core metrics p.1.bounds target)
    {op : Relayout Binary32} {e : Error} (hfailed : op.run.run p = (.error e, q)) :
    q.1.indicator = p.1.indicator ∧ (∃ refused, Torn q.1 target refused) ∧
      ((∀ dts, (stepAll dts q).1.indicator = p.1.indicator) ∨ p.1.bounds.isDegenerate ∨
        ∃ p' e', p'.1.core = p.1.core ∧ p'.1.bounds = p.1.bounds ∧
          resnap.run p' = (.error e', q)) := by
  have haftermath : Aftermath p.1 target q := by
    cases op with
    | bounds bounds =>
      have hends : Ends (layout bounds) p _ := ends_layout_refused hm ha hs haim bounds
      exact (ends_of_run hfailed).mp hends e rfl
    | items items =>
      have hends : Ends (setItems items) p _ := ends_setItems_refused hm ha hs haim items
      exact (ends_of_run hfailed).mp hends e rfl
  obtain ⟨refused, htorn, hback⟩ := haftermath
  have hindicator : q.1.indicator = p.1.indicator := htorn.indicator.trans hs.indicator.symm
  refine ⟨hindicator, ⟨refused, htorn⟩, hback.imp_left fun hsettled dts => ?_⟩
  rw [stepAll_still (.inl ⟨target, hsettled⟩) dts, hindicator]

/-- The second of two tabs is selected. The row is laid out; then its second channel refuses to
follow it into other bounds. -/
def refusedBounds : TabRow Binary32 (Scripted Binary32) (Gated Binary32) × Scripted Binary32 :=
  ((TabRow.layout ⟨0, 0, 200, 48⟩).run ({ Scripted.row .default ["one", "two"]
    ⟨some .position, .idle⟩ ⟨some .width, .idle⟩ with selected := some 1 },
    .start (List.replicate 9 false ++ [true]))).2

theorem Scripted.answers_measureText (font : FontHandle) :
    Answers (TextHost.measureText font : Measurer Binary32 (Scripted Binary32)) metrics := by
  intro text s
  change Ends (do answer; return metrics text) s _
  rw [ends_bind]
  apply (ends_run _ _).imp
  rintro (e | ⟨⟩) s' -
  · exact fun _ hr => (error_ne_ok hr).elim
  · rintro _ ⟨⟩
    rfl

theorem TabRow.relayout_refused_bounds : ∃ e q refused,
    (Relayout.bounds ⟨0, 0, 300, 48⟩).run.run refusedBounds = (.error e, q) ∧
      Settled refusedBounds.1 (100, 100) ∧ q.1.indicator = refusedBounds.1.indicator ∧
      Torn q.1 (100, 100) refused := by
  have hfailed : ((TabRow.layout ⟨0, 0, 300, 48⟩).run refusedBounds).1.isOk = false := by
    decide +kernel
  have hrests : refusedBounds.1.positionChannel.timing.running = false ∧
      refusedBounds.1.positionChannel.timing.current = 100 ∧
      refusedBounds.1.widthChannel.timing.running = false ∧
      refusedBounds.1.widthChannel.timing.current = 100 ∧
      refusedBounds.1.indicator = (100, 100) := by decide +kernel
  obtain ⟨hp, hp', hw, hw', hindicator⟩ := hrests
  have hsettled : Settled refusedBounds.1 (100, 100) := ⟨⟨hp, hp'⟩, ⟨hw, hw'⟩, hindicator⟩
  have haim : Aims refusedBounds.1.core Scripted.metrics refusedBounds.1.bounds (100, 100) := by
    refine ⟨⟨.fixed, 0, 0, 100, 48, 0, 200, 48, 200, 48⟩, run_unit ?_, run_unit ?_⟩
    · decide +kernel
    · decide +kernel
  have hfont : refusedBounds.1.font = .adopt ⟨1, 1⟩ := by decide +kernel
  have hm : refusedBounds.1.font.measurer =
      .ok (TextHost.measureText ⟨1, 1⟩ : Measurer Binary32 (Scripted Binary32)) := by
    rw [hfont]
    rfl
  rcases hrun : (Relayout.bounds ⟨0, 0, 300, 48⟩).run.run refusedBounds with ⟨e | ⟨⟩, q⟩
  · obtain ⟨hsame, ⟨refused, htorn⟩, -⟩ := relayout_refused hm (Scripted.answers_measureText _)
      hsettled (fun _ => haim) hrun
    exact ⟨e, q, refused, rfl, hsettled, hsame, htorn⟩
  · have hok : ((TabRow.layout ⟨0, 0, 300, 48⟩).run refusedBounds).1.isOk = true :=
      congrArg (fun out => out.1.isOk) hrun
    exact nomatch hok.symm.trans hfailed

/-- The second of two tabs is selected, in a row that has not been laid out. -/
def unplacedTabs :
    HostM (Scripted Binary32) (TabRow Binary32 (Scripted Binary32) (Gated Binary32)) :=
  TabRow.create { TabStyle.default with text := .withFamily "Sans" } ["one", "two"] (some 1)
    ⟨some .position, .idle⟩ ⟨some .width, .idle⟩

/-- The first layout of a row fails between its two channels, and then time moves the indicator. -/
theorem TabRow.unplaced_layout_strands : ∃ row host e q,
    unplacedTabs.run (.start (List.replicate 8 false ++ [true])) = (.ok row, host) ∧
      Settled row (0, 0) ∧ (TabRow.layout ⟨0, 0, 200, 48⟩).run (row, host) = (.error e, q) ∧
      (stepAll [0.016] q).1.indicator = (100, 0) := by
  have hstranded : (match unplacedTabs.run (.start (List.replicate 8 false ++ [true])) with
      | (.ok row, host) =>
        let out := (TabRow.layout ⟨0, 0, 200, 48⟩).run (row, host)
        decide ((row.positionChannel.timing.running = false ∧
            row.positionChannel.timing.current = 0) ∧
          (row.widthChannel.timing.running = false ∧ row.widthChannel.timing.current = 0) ∧
          row.indicator = (0, 0) ∧ out.1.isOk = false ∧
          (stepAll [0.016] out.2).1.indicator = (100, 0))
      | (.error _, _) => false) = true := by decide +kernel
  rcases hmake : unplacedTabs.run (.start (List.replicate 8 false ++ [true])) with ⟨e | row, host⟩
  all_goals rw [hmake] at hstranded
  · exact nomatch hstranded
  obtain ⟨hp, hw, hindicator, hfailed, hmoved⟩ := of_decide_eq_true hstranded
  rcases hlayout : (TabRow.layout ⟨0, 0, 200, 48⟩).run (row, host) with ⟨e | ⟨⟩, q⟩
  all_goals rw [hlayout] at hfailed hmoved
  · exact ⟨row, host, e, q, rfl, ⟨hp, hw, hindicator⟩, hlayout, hmoved⟩
  · exact nomatch hfailed

end Widgetry
