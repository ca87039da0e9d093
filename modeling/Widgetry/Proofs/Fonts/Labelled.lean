import Mathlib.Data.List.Infix
import Widgetry.Proofs.Caches.Cached
import Widgetry.Proofs.Fonts.Owning
import Widgetry.Proofs.Host.Scripted

/-! When a badge holds a font: from its first label on, and until it is destroyed. That the label is
taken away again does not give the font back. -/
namespace Widgetry.Badge

open Ledger

variable {α σ τ : Type} {first badge : Badge α}

/-- What becomes of the font of a badge: it comes with a label, and once held it is held on. -/
def Onward (first badge : Badge α) : Prop :=
  badge.font.isLive ↔ first.font.isLive ∨ badge.label.isSome

/-- A badge with a label holds a font. -/
def Labelled (badge : Badge α) : Prop := badge.label.isSome → badge.font.isLive

theorem Labelled.onward (h : badge.Labelled) : badge.Onward badge := ⟨.inl, fun hl => hl.elim id h⟩

theorem Onward.labelled (h : first.Onward badge) : badge.Labelled := fun hl => h.mpr (.inr hl)

theorem onward_of_live (hbadge : badge.font.isLive) (hfirst : first.font.isLive) :
    first.Onward badge := ⟨fun _ => .inl hfirst, fun _ => hbadge⟩

section Steps

variable [TextHost α τ]

theorem ends_loadFont_live (style : BadgeStyle α) {h : τ} :
    Ends (loadFont style : HostM τ (OwnedFont × TextMetrics α)) h fun r _ => ∀ loaded,
      r = .ok loaded → loaded.1.isLive := by
  refine (ends_run _ h).bind (fun font h' _ => ?_) fun _ _ _ _ hr => nomatch hr
  rw [ends_tryCatch, ends_bind]
  apply (ends_run _ h').imp
  rintro (e | line) h'' -
  · refine (ends_run _ h'').bind (fun _ _ _ => ?_) fun _ _ _ _ hr => nomatch hr
    exact fun _ hr => nomatch hr
  · rintro _ ⟨⟩
    rfl

/-- A label brings a font where there is none. Taking the label away leaves the font. -/
theorem ends_setLabel_onward (label : Option String) {h : τ} (hl : badge.Labelled) :
    Ends (setLabel label : Step (Badge α) τ Unit) (badge, h) fun _ p => badge.Onward p.1 := by
  rw [setLabel, ends_bind, Step.ends_self]
  dsimp only
  split
  next hload =>
    rw [ends_bind, Step.ends_self]
    dsimp only
    rw [ends_bind, Step.ends_host]
    apply (ends_loadFont_live badge.style).imp
    rintro (e | loaded) h' hloaded
    · exact hl.onward
    · exact ⟨fun _ => .inr hload.1, fun _ => hloaded loaded rfl⟩
  next hkeep =>
    refine ⟨.inl, fun hlive => hlive.elim id fun hsome => ?_⟩
    by_contra hdark
    exact hkeep ⟨hsome, hdark⟩

variable [Scalar α]

/-- A font is swapped for another font, or stays. -/
theorem ends_setStyle_onward (style : BadgeStyle α) {h : τ} (hl : badge.Labelled) :
    Ends (setStyle style : Step (Badge α) τ Unit) (badge, h) fun _ p => badge.Onward p.1 := by
  refine .of_check (fun _ _ => ?_) fun _ _ => hl.onward
  rw [ends_bind, Step.ends_self]
  dsimp only
  split
  next hlive =>
    have hswap : Keeps (fun p => badge.Onward p.1) (do
        let loaded ← Step.host (loadFont style)
        onFont (OwnedFont.replace loaded.1)
        Step.update fun badge => { badge with line := loaded.2 }
        Step.update fun badge => { badge with style } : Step (Badge α) τ Unit) :=
      keeps_swapIn (fun _ => rfl) (fun h => ends_loadFont_live style)
        (fun loaded badge => { badge with style, line := loaded.2 }) (fun _ _ => ⟨rfl, rfl⟩)
        fun _ _ hloaded _ => onward_of_live hloaded hlive
    exact hswap (badge, h) hl.onward
  next => exact hl.onward

variable [PaintHost α τ]

theorem ends_run_onward {op : BadgeOp α} (hop : op ≠ .destroy) {h : τ} (hl : badge.Labelled) :
    Ends (op.run : Step (Badge α) τ Unit) (badge, h) fun _ p => badge.Onward p.1 := by
  have hstart : badge.Onward badge := hl.onward
  cases op with
  | setLabel label => exact ends_setLabel_onward label hl
  | setStyle style => exact ends_setStyle_onward style hl
  | place anchor placement =>
    exact keeps_ignore (keeps_place_still (fun _ _ h => h) anchor placement) (badge, h) hstart
  | setFlags flags => exact hstart
  | measure width height => exact keeps_ignore (keeps_measure_still width height) (badge, h) hstart
  | layout bounds => exact keeps_layout_still (fun _ _ h => h) bounds (badge, h) hstart
  | paint => exact keeps_paint_still (badge, h) hstart
  | event e => exact hstart
  | destroy => exact (hop rfl).elim

/-- A badge on its host, after what is done with it. -/
def after (p : Badge α × τ) (ops : List (BadgeOp α)) : Badge α × τ :=
  ops.foldl (fun p op => (op.run.run p).2) p

theorem after_cons (p : Badge α × τ) (op : BadgeOp α) (ops : List (BadgeOp α)) :
    after p (op :: ops) = after (op.run.run p).2 ops := rfl

/-- The badge held a font at first, or it has had a label since. -/
theorem isLive_after {p : Badge α × τ} (hl : p.1.Labelled) {ops : List (BadgeOp α)}
    (hops : ∀ op ∈ ops, op ≠ .destroy) :
    (after p ops).1.font.isLive ↔
      p.1.font.isLive ∨ ∃ done, done <+: ops ∧ (after p done).1.label.isSome := by
  induction ops generalizing p with
  | nil =>
    have hfirst : (∃ done, done <+: [] ∧ (after p done).1.label.isSome) ↔ p.1.label.isSome := by
      simp [after]
    rw [hfirst]
    exact hl.onward
  | cons op ops ih =>
    obtain ⟨hop, hops⟩ := List.forall_mem_cons.mp hops
    have hstep : p.1.Onward (op.run.run p).2.1 := ends_run_onward hop hl
    rw [after_cons, ih hstep.labelled hops, hstep.eq]
    constructor
    · rintro ((hlive | hsome) | ⟨done, hdone, hsome⟩)
      · exact .inl hlive
      · exact .inr ⟨[op], by simp, hsome⟩
      · exact .inr ⟨op :: done, List.cons_prefix_cons.mpr ⟨rfl, hdone⟩, hsome⟩
    · rintro (hlive | ⟨_ | ⟨op', done⟩, hdone, hsome⟩)
      · exact .inl (.inl hlive)
      · exact .inl (.inl (hl hsome))
      · obtain ⟨rfl, hrest⟩ := List.cons_prefix_cons.mp hdone
        exact .inr ⟨done, hrest, hsome⟩

end Steps

variable [Scalar α] [TextHost α σ] [PaintHost α σ] {others : List FontHandle}

theorem owns_after {p : Badge α × Traced σ} (h : Owns others p) (ops : List (BadgeOp α)) :
    Owns others (after p ops) := by
  induction ops generalizing p with
  | nil => exact h
  | cons op ops ih => exact ih (keeps_run op p h)

omit [PaintHost α σ] in
/-- A new badge holds a font if it has a label. -/
theorem ends_create_labelled (style : BadgeStyle α) (label : Option String) {t : Traced σ} :
    Ends (create style label) t fun r _ => ∀ badge, r = .ok badge →
      (badge.font.isLive ↔ badge.label.isSome) := by
  refine .of_check (fun _ _ => ?_) fun _ _ _ hr => nomatch hr
  rw [Step.ends_construct]
  have hfirst : (⟨style, none, .empty, .zero, .zero, .none⟩ : Badge α).Labelled := nofun
  apply (ends_setLabel_onward label hfirst).imp
  rintro (e | ⟨⟩) p hp _ ⟨⟩
  simpa [Onward, OwnedFont.isLive, OwnedFont.empty] using hp

/-- Whatever is done with a badge that is not destroyed, and whichever calls its host refuses: the
badge holds a font exactly if it has had a label at some time. With the fonts that others hold, this
font accounts for all that live, and a badge that never had a label adds none to them. -/
theorem font_from_first_label (style : BadgeStyle α) (label : Option String) {t : Traced σ}
    (ht : Held others t) {ops : List (BadgeOp α)} (hops : ∀ op ∈ ops, op ≠ .destroy) :
    Ends (create style label) t fun r t' => ∀ badge, r = .ok badge →
      let last := after (badge, t') ops
      (last.1.label.isSome → last.1.font.isLive) ∧
      (last.1.font.isLive ↔ ∃ done, done <+: ops ∧ (after (badge, t') done).1.label.isSome) ∧
      Held (last.1.font.toList ++ others) last.2 ∧
      (¬last.1.font.isLive → Held others last.2) := by
  apply ((brings_create style label others t ht).and (ends_create_labelled style label)).imp
  rintro _ t' ⟨howns, hnew⟩ badge rfl
  have hbadge : badge.font.isLive ↔ badge.label.isSome := hnew badge rfl
  have hfirst : Owns others (badge, t') := howns
  have hheld : Owns others (after (badge, t') ops) := owns_after hfirst ops
  have hlive := isLive_after (p := (badge, t')) hbadge.mpr hops
  have hfrom : (after (badge, t') ops).1.font.isLive ↔
      ∃ done, done <+: ops ∧ (after (badge, t') done).1.label.isSome := by
    rw [hlive]
    refine ⟨fun h => h.elim (fun hfirst => ⟨[], List.nil_prefix, hbadge.mp hfirst⟩) id, .inr⟩
  refine ⟨fun hsome => hfrom.mpr ⟨ops, List.prefix_rfl, hsome⟩, hfrom, hheld, fun hdark => ?_⟩
  have hnone : (after (badge, t') ops).1.font.toList = [] := by
    simpa [OwnedFont.toList, OwnedFont.isLive] using hdark
  rwa [Owns, Owning, hnone] at hheld

/-- The first font of the badge is given up, as its line is not measured. The host keeps the second
one when it is to be replaced, and the label is taken away last. -/
def refusedOps : List (BadgeOp Rat) :=
  [.setLabel (some "3"), .setLabel (some "3"), .setStyle .default, .setLabel none, .paint]

def refusedHost : Traced (Scripted Rat) :=
  ⟨.start [false, true, false, false, false, false, false, true], []⟩

theorem font_from_first_label_refused :
    Held [] refusedHost ∧ (∀ op ∈ refusedOps, op ≠ .destroy) ∧
    ((create BadgeStyle.default none).run refusedHost).1.isOk = true ∧
    Ends (create .default none) refusedHost fun r t' => ∀ badge, r = .ok badge →
      let last := after (badge, t') refusedOps
      (last.1.label.isSome → last.1.font.isLive) ∧
      (last.1.font.isLive ↔
        ∃ done, done <+: refusedOps ∧ (after (badge, t') done).1.label.isSome) ∧
      Held (last.1.font.toList ++ []) last.2 ∧
      (¬last.1.font.isLive → Held [] last.2) := by
  have hheld : Held [] refusedHost := Accounted.nil
  have hops : ∀ op ∈ refusedOps, op ≠ .destroy := by simp [refusedOps]
  have hmade : ((create BadgeStyle.default none).run refusedHost).1.isOk = true := by
    decide +kernel
  exact ⟨hheld, hops, hmade, font_from_first_label .default none hheld hops⟩

/-- A badge whose label is taken away. -/
def darkened : Option (Badge Rat × Traced (Scripted Rat)) :=
  match (create .default (some "3") : HostM (Traced (Scripted Rat)) (Badge Rat)).run
      ⟨.start [], []⟩ with
  | (.ok badge, t) => some (after (badge, t) [.setLabel none])
  | (.error _, _) => none

theorem font_outlives_label : ∃ badge t, darkened = some (badge, t) ∧
    badge.label = none ∧ badge.font.isLive ∧ live t.calls = [⟨1, 1⟩] := by
  have hend : darkened.map (fun p => (p.1.label, p.1.font.isLive, live p.2.calls)) =
      some (none, true, [⟨1, 1⟩]) := by decide +kernel
  obtain ⟨⟨badge, t⟩, hdark, hp⟩ := Option.map_eq_some_iff.mp hend
  obtain ⟨hlabel, hlive, hcalls⟩ : badge.label = none ∧ badge.font.isLive = true ∧
      live t.calls = [⟨1, 1⟩] := by simpa using hp
  exact ⟨badge, t, hdark, hlabel, hlive, hcalls⟩

end Widgetry.Badge
