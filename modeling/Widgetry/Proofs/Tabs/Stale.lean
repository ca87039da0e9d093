import Widgetry.Proofs.Host.Scripted
import Widgetry.Proofs.Tabs.Scrolling

/-! Fixed tabs are not scrolled. A restyled row keeps its offset, though, so tabs that were scrolled
and are now fixed stay where they were until something fits the row anew. -/
namespace Widgetry

variable {α σ τ χ : Type} [Scalar α] [TextHost α τ] [PaintHost α τ] [Channel α τ χ]

namespace TabRow

/-- Fixed tabs at an offset from when they scrolled: nothing has fitted the row since. -/
inductive Stale (hear : TabListener σ → TabListener τ) (offset : α) : TabRow α τ χ × τ → Prop
  | restyled {p q : TabRow α τ χ × τ} {style : TabStyle α} (reached : Reachable hear p)
      (scrollable : p.1.style.mode = .scrollable) (scrolled : p.1.scroll = offset)
      (run : (setStyle style).run p = (.ok (), q)) (fixed : style.mode = .fixed) :
      Stale hear offset q
  | kept {p q : TabRow α τ χ × τ} {r : Except Error Unit} (op : TabOp α σ)
      (before : Stale hear offset p) (run : (op.run hear).run p = (r, q))
      (fixed : q.1.style.mode = .fixed) (unfit : op.Clamps p.1 → r ≠ .ok ()) :
      Stale hear offset q

variable {hear : TabListener σ → TabListener τ} {p q : TabRow α τ χ × τ} {r : Except Error Unit}

/-- At its start, or stale. -/
def Lingers (hear : TabListener σ → TabListener τ) (p : TabRow α τ χ × τ) : Prop :=
  p.1.style.mode = .fixed → p.1.scroll = 0 ∨ Stale hear p.1.scroll p

theorem Lingers.kept (hp : Lingers hear p) (op : TabOp α σ) (run : (op.run hear).run p = (r, q))
    (hmode : q.1.style.mode = p.1.style.mode) (hscroll : q.1.scroll = p.1.scroll)
    (unfit : op.Clamps p.1 → r ≠ .ok ()) : Lingers hear q := by
  intro hfixed
  rw [hscroll]
  exact (hp (hmode ▸ hfixed)).imp_right fun hs => .kept op hs run hfixed unfit

theorem lingers_setStyle (reached : Reachable hear p) (hp : Lingers hear p) (style : TabStyle α)
    (run : (setStyle style).run p = (r, q)) : Lingers hear q := by
  have hends : Ends (setStyle style) p _ := ends_setStyle_scroll style
  obtain ⟨hscroll, hstyle⟩ := (ends_of_run run).mp hends
  cases r with
  | error e =>
    exact hp.kept (.setStyle style) run (congrArg TabStyle.mode hstyle) hscroll False.elim
  | ok =>
    have hmode : q.1.style.mode = style.mode := congrArg TabStyle.mode hstyle.1
    cases hm : p.1.style.mode with
    | fixed =>
      intro hfixed
      rw [hscroll]
      exact (hp hm).imp_right fun hs => .kept (.setStyle style) hs run hfixed False.elim
    | scrollable =>
      exact fun hfixed => .inr (.restyled reached hm hscroll.symm run (hmode.symm.trans hfixed))

theorem lingers_run (reached : Reachable hear p) (hp : Lingers hear p) (op : TabOp α σ) :
    Lingers hear ((op.run hear).run p).2 := by
  by_cases hop : ∃ style, op = .setStyle style
  · obtain ⟨style, rfl⟩ := hop
    exact lingers_setStyle reached hp style rfl
  have hends : Ends (op.run hear) p _ := ends_run_clamped hear op fun style h => hop ⟨style, h⟩
  obtain ⟨⟨hstyle, hscroll⟩, hfit⟩ := hends
  by_cases hc : op.Clamps p.1 ∧ ((op.run hear).run p).1 = .ok ()
  · exact fun hfixed => .inl ((hfit hc.1 hc.2).fixed hfixed)
  obtain hsame | hzero | hclamped := hscroll
  · exact hp.kept op rfl (congrArg TabStyle.mode hstyle) hsame fun h hr => hc ⟨h, hr⟩
  · exact fun _ => .inl hzero
  · exact fun hfixed => .inl (hclamped.fixed hfixed)

theorem Reachable.lingers (hp : Reachable hear p) : Lingers hear p := by
  induction hp with
  | created run =>
    exact fun _ => .inl ((ends_of_run run).mp (ends_create_scroll _ _ _ _ _ _) _ rfl).2
  | operated op reached ih => exact lingers_run reached ih op

/-- Fixed tabs are at their start wherever the row has been fitted since they scrolled. -/
theorem fixed_at_start (hp : Reachable hear p) (fixed : p.1.style.mode = .fixed) :
    (p.1.scroll = 0 ∨ Stale hear p.1.scroll p) ∧
      ∀ (op : TabOp α σ) q, (op.run hear).run p = (.ok (), q) → op.Clamps p.1 →
        q.1.scroll = 0 := by
  refine ⟨hp.lingers fixed, fun op q run hc => ?_⟩
  have hop (style : TabStyle α) : op ≠ .setStyle style := by
    rintro rfl
    exact hc
  have hends : Ends (op.run hear) p _ := ends_run_clamped hear op hop
  obtain ⟨hscrolls, hfit⟩ := (ends_of_run run).mp hends
  refine (hfit hc rfl).fixed ?_
  rw [hscrolls.style]
  exact fixed

end TabRow

/-- Two tabs that scroll. -/
def narrowTabs :
    HostM (Scripted Binary32) (TabRow Binary32 (Scripted Binary32) (Timing Binary32)) :=
  TabRow.create { TabStyle.scrollable with text := .withFamily "Sans" } ["one", "two"] none
    .idle .idle

/-- Scrolled half-way, the tabs become fixed. -/
def restyling : List (TabOp Binary32 (Scripted Binary32)) :=
  [.layout ⟨0, 0, 100, 48⟩, .setScroll 50,
    .setStyle { TabStyle.default with text := .withFamily "Sans" }]

theorem exists_restyled :
    ∃ p q : TabRow Binary32 (Scripted Binary32) (Timing Binary32) × Scripted Binary32,
      TabRow.Reachable id p ∧ p.1.style.mode = .fixed ∧ p.1.scroll ≠ 0 ∧
        (TabRow.layout ⟨0, 0, 100, 48⟩).run p = (.ok (), q) := by
  have hstate : (match narrowTabs.run (.start []) with
      | (.ok row, host) =>
        let p := restyling.foldl (fun p op => ((op.run id).run p).2) (row, host)
        decide (p.1.style.mode = .fixed ∧ p.1.scroll ≠ 0 ∧
          ((TabRow.layout ⟨0, 0, 100, 48⟩).run p).1.toOption = some ())
      | (.error _, _) => false) = true := by decide +kernel
  rcases hmake : narrowTabs.run (.start []) with ⟨e | row, host⟩
  all_goals rw [hmake] at hstate
  · exact nomatch hstate
  obtain ⟨hmode, hscroll, hok⟩ := of_decide_eq_true hstate
  exact ⟨_, _, (TabRow.Reachable.created hmake).after restyling, hmode, hscroll,
    run_of_toOption hok⟩

theorem TabRow.restyled_keeps_offset :
    ∃ p : TabRow Binary32 (Scripted Binary32) (Timing Binary32) × Scripted Binary32,
      Reachable id p ∧ p.1.style.mode = .fixed ∧ p.1.scroll ≠ 0 := by
  obtain ⟨p, -, hp, hmode, hscroll, -⟩ := exists_restyled
  exact ⟨p, hp, hmode, hscroll⟩

/-- The next layout takes the tabs back to their start. -/
theorem TabRow.fixed_at_start_restyled :
    ∃ p q : TabRow Binary32 (Scripted Binary32) (Timing Binary32) × Scripted Binary32,
      Reachable id p ∧ p.1.style.mode = .fixed ∧ Stale id p.1.scroll p ∧
        ((TabOp.layout ⟨0, 0, 100, 48⟩).run id).run p = (.ok (), q) ∧ q.1.scroll = 0 := by
  obtain ⟨p, q, hp, hmode, hscroll, hrun⟩ := exists_restyled
  obtain ⟨hlingers, hfit⟩ := fixed_at_start hp hmode
  exact ⟨p, q, hp, hmode, hlingers.resolve_left hscroll, hrun, hfit (.layout _) q hrun trivial⟩

end Widgetry
