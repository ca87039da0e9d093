import Widgetry.Proofs.Fonts.Ledger

/-! A font that takes the place of another, call by call. Either the new one is live and the old one
is gone, or the live fonts are those from before, with the new one among them only if the host has
refused to take it back. -/
namespace Widgetry

namespace Ledger

variable {font new : FontHandle} {base asked after : List HostCall}

theorem Fresh.of_append (h : Fresh (asked ++ base)) : Fresh base := by
  induction asked with
  | nil => exact h
  | cons call asked ih => exact ih h.2

/-- An attempt that was undone. Of its fonts only one that the host refused to destroy is left. -/
inductive Reverted (base : List HostCall) : List HostCall → Prop
  | clean {asked : List HostCall}
    (undone : ∀ font, .created font ∈ asked → .destroyFailed font ∉ asked)
      (same : live (asked ++ base) = live base) : Reverted base (asked ++ base)
  | stranded {asked : List HostCall} {font : FontHandle} (made : .created font ∈ asked)
      (refused : .destroyFailed font ∈ asked) (more : live (asked ++ base) = font :: live base) :
      Reverted base (asked ++ base)

theorem Reverted.refl (base : List HostCall) : Reverted base base := by
  change Reverted base ([] ++ base)
  exact .clean (fun _ hf => nomatch hf) rfl

/-- The new font has come and is the only one that has. -/
structure Brought (new : FontHandle) (base asked : List HostCall) : Prop where
  made : ∀ font, .created font ∈ asked ↔ font = new
  unrefused : .destroyFailed new ∉ asked
  unissued : new ∉ live base
  live_eq : live (asked ++ base) = new :: live base

/-- The new font is live, the old one is not, and all others are as they were. -/
structure Replaced (base : List HostCall) (old : OwnedFont) (new : FontHandle)
    (after : List HostCall) : Prop where
  made : ∃ asked, after = asked ++ base ∧ .created new ∈ asked
  live_iff : ∀ font, font ∈ live after ↔ font = new ∨ font ∈ live base ∧ font ∉ old.toList
  gone : ∀ font ∈ old.toList, font ∉ live after

namespace Brought

theorem created (h : Fresh (.created new :: base)) : Brought new base [.created new] where
  made font := by simp
  unrefused := by simp
  unissued := h.1 new rfl
  live_eq := rfl

/-- A call that neither creates nor destroys. -/
theorem cons (hb : Brought new base asked) {call : HostCall} (hmade : ∀ font, call ≠ .created font)
    (hrefused : call ≠ .destroyFailed new) (hlive : ∀ calls, live (call :: calls) = live calls) :
    Brought new base (call :: asked) where
  made font := by simp [hb.made font, (hmade font).symm]
  unrefused := by simp [hb.unrefused, hrefused.symm]
  unissued := hb.unissued
  live_eq := (hlive _).trans hb.live_eq

theorem taken_back (hb : Brought new base asked) :
    Reverted base (.destroyed new :: (asked ++ base)) := by
  change Reverted base ((.destroyed new :: asked) ++ base)
  refine .clean (fun font hf => ?_) ?_
  · obtain rfl : font = new := by simpa [hb.made] using hf
    simpa using hb.unrefused
  · change (live (asked ++ base)).filter (· ≠ new) = live base
    rw [hb.live_eq, List.filter_cons_of_neg (by simp), List.filter_eq_self]
    intro font hf
    have hne : font ≠ new := fun heq => hb.unissued (heq ▸ hf)
    simpa using hne

theorem stranded (hb : Brought new base asked) :
    Reverted base (.destroyFailed new :: (asked ++ base)) := by
  change Reverted base ((.destroyFailed new :: asked) ++ base)
  exact .stranded (List.mem_cons_of_mem _ ((hb.made new).mpr rfl)) List.mem_cons_self hb.live_eq

theorem replaced_none (hb : Brought new base asked) :
    Replaced base .empty new (asked ++ base) where
  made := ⟨asked, rfl, (hb.made new).mpr rfl⟩
  live_iff font := by simp [hb.live_eq, OwnedFont.toList, OwnedFont.empty]
  gone := by simp [OwnedFont.toList, OwnedFont.empty]

theorem replaced (hb : Brought new base asked) {old : FontHandle} (hold : old ∈ live base) :
    Replaced base (.adopt old) new (.destroyed old :: (asked ++ base)) := by
  have hne : old ≠ new := fun heq => hb.unissued (heq ▸ hold)
  have hlive (font : FontHandle) : font ∈ live (.destroyed old :: (asked ++ base)) ↔
      font = new ∨ font ∈ live base ∧ font ∉ (OwnedFont.adopt old).toList := by
    change font ∈ (live (asked ++ base)).filter (· ≠ old) ↔ _
    rw [hb.live_eq, List.mem_filter, List.mem_cons]
    by_cases hfont : font = new
    · simp [hfont, hne.symm]
    · simp [hfont, OwnedFont.toList, OwnedFont.adopt]
  refine ⟨⟨.destroyed old :: asked, rfl, ?_⟩, hlive, fun font hf => ?_⟩
  · exact List.mem_cons_of_mem _ ((hb.made new).mpr rfl)
  · obtain rfl : font = old := by simpa [OwnedFont.toList, OwnedFont.adopt] using hf
    rw [hlive]
    exact fun hl => hl.elim hne fun hl => hl.2 hf

end Brought

end Ledger

open Ledger

variable {α σ ω β : Type} [TextHost α σ] {t : Traced σ} {font new : FontHandle}

theorem ends_createFont_calls (style : TextStyle α) :
    Ends (TextHost.createFont style : HostM (Traced σ) FontHandle) t fun r t' =>
      match r with
      | .ok font => t'.calls = .created font :: t.calls
      | .error _ => t'.calls = t.calls := by
  apply (Traced.ends_call _ _).mpr
  apply (ends_run _ _).imp
  rintro (e | font) host -
  · rfl
  · rfl

theorem ends_destroyFont_calls (font : FontHandle) :
    Ends (TextHost.destroyFont (α := α) font : HostM (Traced σ) Unit) t fun r t' =>
      match r with
      | .ok () => t'.calls = .destroyed font :: t.calls
      | .error _ => t'.calls = .destroyFailed font :: t.calls := by
  apply (Traced.ends_call _ _).mpr
  apply (ends_run _ _).imp
  rintro (e | ⟨⟩) host -
  · rfl
  · rfl

/-- A computation that brings a font, or undoes what it has done. -/
def Loads (brought : β → OwnedFont) (load : HostM (Traced σ) β) : Prop :=
  ∀ t, Ends load t fun r t' =>
    match r with
    | .ok b => ∃ new asked, brought b = .adopt new ∧ t'.calls = asked ++ t.calls ∧
        (Fresh t'.calls → Brought new t.calls asked)
    | .error _ => Fresh t'.calls → Reverted t.calls t'.calls

namespace OwnedFont

theorem ends_create_calls (style : TextStyle α) :
    Ends (create style : HostM (Traced σ) OwnedFont) t fun r t' =>
      match r with
      | .ok font => ∃ new, font = adopt new ∧ t'.calls = .created new :: t.calls
      | .error _ => t'.calls = t.calls := by
  rw [create, ends_bind]
  apply (ends_createFont_calls style).imp
  rintro (e | new) t' hcalls
  · exact hcalls
  · exact ⟨new, rfl, hcalls⟩

theorem loads_create (style : TextStyle α) :
    Loads id (create style : HostM (Traced σ) OwnedFont) := by
  intro t
  apply (ends_create_calls style).imp
  rintro (e | font) t' hcreated
  · intro _
    rw [show t'.calls = _ from hcreated]
    exact .refl _
  · obtain ⟨new, rfl, hcalls⟩ := hcreated
    refine ⟨new, [.created new], rfl, hcalls, fun hfresh => ?_⟩
    rw [hcalls] at hfresh
    exact .created hfresh

/-- The font that has been brought is given up. -/
theorem ends_discard_brought {base asked : List HostCall} (hcalls : t.calls = asked ++ base)
    (hb : Fresh t.calls → Brought new base asked) :
    Ends (adopt new).discard t fun r t' =>
      r = .ok () ∧ (Fresh t'.calls → Reverted base t'.calls) := by
  change Ends (tryCatch (TextHost.destroyFont new) fun _ => pure ()) t _
  apply (ends_destroyFont_calls new).tryCatch
  · intro _ t' (hdestroyed : t'.calls = _)
    refine ⟨rfl, fun hfresh => ?_⟩
    rw [hdestroyed] at hfresh ⊢
    rw [hcalls]
    exact (hb hfresh.2).taken_back
  · intro _ t' (hrefused : t'.calls = _)
    refine ⟨rfl, fun (hfresh : Fresh t'.calls) => ?_⟩
    change Reverted base t'.calls
    rw [hrefused] at hfresh ⊢
    rw [hcalls]
    exact (hb hfresh.2).stranded

/-- The font that has been brought takes the place of the held one, or is given up. -/
theorem ends_replace_brought {old : OwnedFont} {base asked : List HostCall}
    (hcalls : t.calls = asked ++ base) (hb : Fresh t.calls → Brought new base asked)
    (hold : Fresh base → ∀ font ∈ old.toList, font ∈ live base) :
    Ends (replace (adopt new) : Step OwnedFont (Traced σ) Unit) (old, t) fun r p =>
      match r with
      | .ok () => p.1 = adopt new ∧ (Fresh p.2.calls → Replaced base old new p.2.calls)
      | .error _ => p.1 = old ∧ (Fresh p.2.calls → Reverted base p.2.calls) := by
  obtain ⟨_ | current⟩ := old
  · refine ⟨rfl, fun hfresh => ?_⟩
    change Replaced base .empty new t.calls
    rw [hcalls]
    exact (hb hfresh).replaced_none
  · simp only [replace, ends_bind, Step.ends_self, ends_tryCatch, Step.ends_host]
    apply (ends_destroyFont_calls current).imp
    rintro (e | ⟨⟩) t' (hasked : t'.calls = _)
    · have hcalls' : t'.calls = (.destroyFailed current :: asked) ++ base := by
        rw [hasked, hcalls, List.cons_append]
      have hb' (hfresh : Fresh t'.calls) : Brought new base (.destroyFailed current :: asked) := by
        rw [hasked] at hfresh
        have hbrought := hb hfresh.2
        have hlive : current ∈ live base :=
          hold (hcalls ▸ hfresh.2).of_append current (by simp [toList])
        refine hbrought.cons (fun _ => by simp) ?_ fun _ => rfl
        rintro ⟨⟩
        exact hbrought.unissued hlive
      apply (ends_discard_brought hcalls' hb').imp
      rintro _ t'' ⟨rfl, hreverted⟩
      exact ⟨rfl, hreverted⟩
    · refine ⟨rfl, fun (hfresh : Fresh t'.calls) => ?_⟩
      change Replaced base (adopt current) new t'.calls
      rw [hasked] at hfresh ⊢
      have hlive : current ∈ live base :=
        hold (hcalls ▸ hfresh.2).of_append current (by simp [toList])
      rw [hcalls]
      exact (hb hfresh.2).replaced hlive

end OwnedFont

end Widgetry
