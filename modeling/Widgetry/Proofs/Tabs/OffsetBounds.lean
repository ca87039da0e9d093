import Widgetry.Proofs.Host.Scripted
import Widgetry.Proofs.Tabs.Phantoms

/-! The offset of a row is a number that is not negative, so no layout refuses to clamp it. Once it
is fitted it shows nothing beyond the content. -/
namespace Widgetry

variable {σ τ χ : Type}

theorem TabLayout.not_isNaN_maxScroll (l : TabLayout Binary32) :
    ¬Scalar.isNaN l.maxScroll = true := by
  have hzero : Admissible (0 : Binary32) := HasOffsets.zero
  exact Binary.not_isNaN_max _ fun h => hzero (.inl h)

/-- Whatever the content measures, NaN included, the clamped offset is not above the last one. -/
theorem TabLayout.clampScroll_le {l : TabLayout Binary32} {offset scroll : Binary32}
    (hm : l.mode = .scrollable) (hs : l.clampScroll offset = .ok scroll) :
    scroll ≤ l.maxScroll := by
  obtain ⟨ho, rfl⟩ := clampScroll_eq_ok.mp hs
  rw [hm]
  exact Binary.min_le_right (fun hnan => ho (.inl hnan)) l.not_isNaN_maxScroll

namespace TabRow

/-- The tabs are at their start, or not scrolled beyond the last offset of their layout. -/
def WithinContent [TextHost Binary32 τ] (row : TabRow Binary32 τ χ) : Prop :=
  match row.style.mode with
  | .fixed => row.scroll = 0
  | .scrollable => ∃ l, LayoutOf τ row.view l ∧ row.scroll ≤ l.maxScroll

theorem Clamped.withinContent [TextHost Binary32 τ] {row : TabRow Binary32 τ χ}
    (hc : Clamped row) : WithinContent row := by
  unfold WithinContent
  cases hm : row.style.mode with
  | fixed => exact hc.fixed hm
  | scrollable =>
    unfold Clamped at hc
    rw [hm] at hc
    obtain ⟨l, offset, hl, hs⟩ := hc
    exact ⟨l, hl, TabLayout.clampScroll_le (hl.computes.mode.trans hm) hs⟩

end TabRow

variable [TextHost Binary32 τ] [PaintHost Binary32 τ] [Channel Binary32 τ χ]

/-- Wherever a program has brought a row, its offset is a number from zero up, which every layout
clamps. Only scrolling can end in an error about it, unless host, channels or listener answer one.
What is refused leaves the row as it was, and what fits the offset fits it to the content. -/
theorem TabRow.offset_in_bounds {hear : TabListener σ → TabListener τ}
    {p : TabRow Binary32 τ χ × τ} (hp : Reachable hear p) :
    Admissible p.1.scroll ∧
    (∀ l : TabLayout Binary32, ∃ scroll, l.clampScroll p.1.scroll = .ok scroll) ∧
    (Serves (· = .range .scrollOffset) τ χ →
      (∀ listener, p.1.onSelect = some listener →
        ∀ index, Averts (· = .range .scrollOffset) (listener index)) →
      ∀ op : TabOp Binary32 σ, ¬op.Slides →
        Ends (op.run hear) p fun r _ => r ≠ .error (.range .scrollOffset)) ∧
    (∀ offset, Ends (setScroll offset) p fun r q => r ≠ .ok () → q.1 = p.1) ∧
    (∀ point dx dy, Ends (handleEvent (.scroll point dx dy)) p fun r q =>
      r ≠ .ok true → q.1 = p.1) ∧
    ∀ (op : TabOp Binary32 σ) q, op.Clamps p.1 → (op.run hear).run p = (.ok (), q) →
      WithinContent q.1 := by
  refine ⟨hp.admissible, fun l => ?_, fun hserves polite op hop => ?_, fun offset => ?_,
    fun point dx dy => ?_, fun op q hc hrun => ?_⟩
  · exact ⟨_, TabLayout.clampScroll_eq_ok.mpr ⟨hp.admissible, rfl⟩⟩
  · have hphantom (e : Error) (he : e = .range .scrollOffset) : Phantom e := he ▸ .scrollOffset
    apply (avoids_run hphantom hserves hear op (fun h => (hop h).elim) hp polite).imp
    rintro r _ hr rfl
    exact hr _ rfl rfl
  · apply (ends_setScroll_clamped offset).imp
    rintro (e | ⟨⟩) q hq
    · exact fun _ => hq
    · exact fun hr => (hr rfl).elim
  · by_cases hd : p.1.flags.has WidgetFlags.disabled
    · exact (ends_handleEvent_disabled hd).mpr fun _ => rfl
    · rw [ends_handleEvent hd]
      apply (ends_onScroll_clamped dx).imp
      rintro r q (hq | ⟨hr, -⟩)
      · exact fun _ => hq
      · exact fun hrefused => (hrefused hr).elim
  · have hop (style : TabStyle Binary32) : op ≠ .setStyle style := by
      rintro rfl
      exact hc
    have hends : Ends (op.run hear) p _ := ends_run_clamped hear op hop
    exact (((ends_of_run hrun).mp hends).2 hc rfl).withinContent

namespace Scripted

variable {bad : Error → Prop} {β : Type} (hbad : ∀ e, bad e → Phantom e)
include hbad

theorem averts_answer : Averts bad (answer : HostM (Scripted Binary32) Unit) := by
  intro s _
  have hrun : answer.run s = (if s.refusals.headD false then
      throw (.state (.host "refused")) else pure () : HostM (Scripted Binary32) Unit).run
        { s with refusals := s.refusals.tail } := rfl
  unfold Ends
  rw [hrun]
  split
  · exact ⟨trivial, fun hb => nomatch hbad _ hb⟩
  · exact ⟨trivial, trivial⟩

omit hbad in
theorem averts_pass {ask : Lane → HostM (Scripted Binary32) Unit}
    {act : Step (Timing Binary32) (Scripted Binary32) β} (hask : ∀ lane, Averts bad (ask lane))
    (hact : Averts bad act) : Averts bad (Gated.pass ask act) := by
  refine Step.yields_self_bind fun g _ _ => ?_
  have hzoom : Averts bad (Step.zoom Gated.timing (fun timing g => { g with timing }) act :
      Step (Gated Binary32) (Scripted Binary32) β) :=
    Step.yields_zoom (I := fun _ => True) (fun _ _ _ => trivial) hact
  cases g.lane with
  | none => exact hzoom
  | some lane => exact (Step.yields_host (I := fun _ => True) (hask lane)).bind fun _ _ => hzoom

/-- A scripted host refuses with an error of its own. -/
theorem serves : Serves bad (Scripted Binary32) (Gated Binary32) where
  measureText _ _ := (averts_answer hbad).bind fun _ _ => .pure trivial
  drawRect _ _ _ := averts_answer hbad
  drawText _ _ _ _ _ := averts_answer hbad
  begin start target _ easing hduration :=
    averts_pass (fun _ => averts_answer hbad) (Timing.averts_begin start target easing hduration)
  value := averts_pass (fun _ => averts_answer hbad)
    (Step.yields_self_bind fun _ _ _ => .pure trivial)
  createFont _ _ := (averts_answer hbad).bind fun _ _ _ _ => ⟨trivial, trivial⟩
  destroyFont _ := averts_answer hbad
  step dt := averts_pass (fun _ => averts_answer hbad) (Timing.averts_step hbad dt)

end Scripted

/-- Two tabs that scroll, over channels that the host may refuse. -/
def gatedTabs : HostM (Scripted Binary32) (TabRow Binary32 (Scripted Binary32) (Gated Binary32)) :=
  TabRow.create { TabStyle.scrollable with text := .withFamily "Sans" } ["one", "two"] none
    ⟨some .position, .idle⟩ ⟨some .width, .idle⟩

/-- To the very end, and then in vain to no number and to before the start. -/
def pulls : List (TabOp Binary32 (Scripted Binary32)) :=
  [.layout ⟨0, 0, 100, 48⟩, .setScroll (.infinite false), .setScroll .nan,
    .event (.scroll ⟨10, 10⟩ (-1000) 0)]

theorem TabRow.offset_in_bounds_pulled :
    ∃ p q : TabRow Binary32 (Scripted Binary32) (Gated Binary32) × Scripted Binary32,
      Reachable id p ∧ p.1.style.mode = .scrollable ∧ 0 < p.1.scroll ∧ Admissible p.1.scroll ∧
      (∀ op : TabOp Binary32 (Scripted Binary32), ¬op.Slides →
        Ends (op.run id) p fun r _ => r ≠ .error (.range .scrollOffset)) ∧
      ((TabOp.paint : TabOp Binary32 (Scripted Binary32)).run id).run p = (.ok (), q) ∧
      WithinContent q.1 := by
  have hstate : (match gatedTabs.run (.start []) with
      | (.ok row, host) =>
        let p := pulls.foldl (fun p op => ((op.run id).run p).2) (row, host)
        decide (p.1.style.mode = .scrollable ∧ 0 < p.1.scroll ∧ p.1.onSelect.isNone ∧
          (TabRow.paint.run p).1.toOption = some ())
      | (.error _, _) => false) = true := by decide +kernel
  rcases hmake : gatedTabs.run (.start []) with ⟨e | row, host⟩
  all_goals rw [hmake] at hstate
  · exact nomatch hstate
  obtain ⟨hmode, hscroll, hquiet, hok⟩ := of_decide_eq_true hstate
  have hp : Reachable id (pulls.foldl (fun p op => ((op.run id).run p).2) (row, host)) :=
    (Reachable.created hmake).after pulls
  generalize pulls.foldl (fun p op => ((op.run id).run p).2) (row, host) = p at *
  obtain ⟨hadmissible, -, havoids, -, -, hfits⟩ := offset_in_bounds hp
  have hrun := run_of_toOption hok
  refine ⟨p, _, hp, hmode, hscroll, hadmissible, havoids ?_ ?_, hrun, hfits .paint _ trivial hrun⟩
  · exact Scripted.serves fun e he => he ▸ .scrollOffset
  · intro listener hlistener
    rw [hlistener] at hquiet
    exact (Bool.false_ne_true hquiet).elim

end Widgetry
