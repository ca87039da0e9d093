import Widgetry.Proofs.Operations
import Widgetry.Proofs.Tabs.Aligned

/-! What a program makes of a row that it has laid out. Until another style is set, the indicator
keeps going to where the selection is. -/
namespace Widgetry

open Step (At)

variable {α σ τ β : Type} [Scalar α]

theorem TabStyle.validate_text {s : TabStyle α} {requireFamily : Bool}
    (h : s.validate requireFamily = .ok ()) : s.text.validate requireFamily = .ok () := by
  unfold TabStyle.validate at h
  cases hl : Validate.nonNegative s.lengths with
  | error e =>
    rw [hl] at h
    exact nomatch h
  | ok =>
    rw [hl] at h
    cases hp : s.padding.validate with
    | error e =>
      rw [hp] at h
      exact nomatch h
    | ok =>
      rw [hp] at h
      cases ht : s.text.validate requireFamily with
      | error e =>
        rw [ht] at h
        exact nomatch h
      | ok => rfl

namespace TabRow

variable {metrics : FontHandle → String → TextMetrics α} {row : TabRow α σ (Timing α)} {h : σ}

/-- A step that leaves the row as it is. -/
theorem poised_of_id {act : Step (TabRow α σ (Timing α)) σ β}
    (ha : ∀ row, Keeps (At id row fun _ => True) act) :
    Keeps (fun p => Poised metrics p.1) act := by
  intro p hp
  apply (ha p.1).ends ⟨rfl, trivial⟩
  rintro _ ⟨row, h⟩ ⟨hrow, -⟩
  obtain rfl : row = p.1 := hrow
  exact hp

theorem Poised.turn (hp : Poised metrics row) (dt : α) : Poised metrics (row.turned dt) where
  scroll := hp.scroll
  aligned hplaced := by
    obtain ⟨layout, target, hl, ht, hposition, hwidth⟩ := hp.aligned hplaced
    exact ⟨layout, target, hl, ht, Dial.tracks_turn (d := row.positionDial) hposition,
      Dial.tracks_turn (d := row.widthDial) hwidth⟩

theorem poised_step (dt : α) :
    Keeps (fun p => Poised metrics p.1) (step dt : Step (TabRow α σ (Timing α)) σ Bool) := by
  rintro ⟨row, h⟩ (hp : Poised metrics row)
  by_cases hdt : Scalar.isNaN dt = true ∨ dt < 0
  · rw [step, if_pos hdt]
    exact hp
  · rw [ends_of_run (step_run hdt)]
    exact hp.turn dt

section Hosted

variable [TextHost α σ]

theorem poised_measure (width height : MeasureSpec α) :
    Keeps (fun p => Poised metrics p.1)
      (measure width height : Step (TabRow α σ (Timing α)) σ (Size α)) := by
  refine poised_of_id fun row => ?_
  refine (Step.keeps_check _).bind fun _ => ?_
  refine (Step.keeps_check _).bind fun _ => ?_
  refine Step.keeps_at_self fun row' _ => ?_
  refine (Step.keeps_check _).bind fun measurer => ?_
  exact (Step.keeps_at_host (.of_true _)).bind fun _ => .pure _

theorem poised_destroy [HasOffsets α] :
    Keeps (fun p => Poised metrics p.1) (destroy : Step (TabRow α σ (Timing α)) σ Unit) := by
  intro p _
  rw [ends_destroy]
  refine (ends_run _ _).imp fun r q _ => ⟨HasOffsets.zero, fun hplaced => (hplaced ?_).elim⟩
  exact congrArg (· || _) (decide_eq_true HasOffsets.zero_le)

variable (hu : Unfailing metrics σ)
include hu

/-- No style is refused but one that is not valid, and that leaves the row alone. -/
theorem ends_setStyle_refused (style : TabStyle α) :
    Ends (setStyle style) (row, h) fun r p => ∀ e, r = .error e → p.1 = row := by
  rw [setStyle]
  refine .of_check (fun _ hvalid => ?_) fun _ _ _ _ => rfl
  have htext := TabStyle.validate_text hvalid
  rw [ends_bind, Step.ends_host, OwnedFont.create, ends_bind]
  apply (hu.createFont style.text h htext).imp
  rintro _ h₁ ⟨font, rfl⟩
  dsimp only
  rw [ends_pure]
  dsimp only
  rw [ends_bind, onFont, Step.ends_zoom]
  apply (hu.ends_replace (OwnedFont.adopt font)).imp
  rintro _ ⟨font', h₂⟩ ⟨rfl, -⟩
  exact nofun

theorem poised_paint [HasOffsets α] [PaintHost α σ] :
    Keeps (fun p => Poised metrics p.1) (paint : Step (TabRow α σ (Timing α)) σ Unit) := by
  rintro ⟨row, h⟩ (hp : Poised metrics row)
  rw [paint]
  dsimp only
  refine (ends_currentLayout_lays hu).bind ?_ fun _ _ hq => hq.1 ▸ hp
  rintro layout ⟨_, h₁⟩ ⟨rfl, -⟩
  rw [ends_bind, Step.ends_self]
  refine .of_check (fun scroll hscroll => ?_) fun _ _ => hp
  rw [ends_bind, Step.ends_update]
  refine poised_of_id (fun row' => ?_) _ (hp.scrolled hscroll)
  refine Step.keeps_at_self fun row _ => ?_
  refine (Step.keeps_at_host (.of_true _)).bind fun _ => ?_
  refine (Step.keeps_at_host (.of_true _)).bind fun _ => ?_
  exact (Step.keeps_check _).bind fun _ => Step.keeps_at_host (.of_true _)

end Hosted

variable [TextHost α τ] [PaintHost α τ]

/-- After a layout, and until another style is set. Listeners reach the row through `hear`. -/
inductive LaidOut (hear : TabListener σ → TabListener τ) :
    TabRow α τ (Timing α) × τ → Prop
  | laid {p q : TabRow α τ (Timing α) × τ} {bounds : Rect α}
      (run : (layout bounds).run p = (.ok (), q)) : LaidOut hear q
  | kept {p q : TabRow α τ (Timing α) × τ} {r : Except Error Unit} (op : TabOp α σ)
      (before : LaidOut hear p) (run : (op.run hear).run p = (r, q))
      (restyled : ∀ style, op = .setStyle style → r ≠ .ok ()) : LaidOut hear q

theorem LaidOut.after {hear : TabListener σ → TabListener τ} {p : TabRow α τ (Timing α) × τ}
    (hp : LaidOut hear p) (ops : List (TabOp α σ))
    (restyled : ∀ op ∈ ops, ∀ style, op ≠ .setStyle style) :
    LaidOut hear (ops.foldl (fun p op => ((op.run hear).run p).2) p) := by
  induction ops generalizing p with
  | nil => exact hp
  | cons op ops ih =>
    refine ih ?_ fun op' hop' => restyled op' (List.mem_cons_of_mem _ hop')
    exact .kept op hp rfl fun style hop => (restyled op List.mem_cons_self style hop).elim

theorem LaidOut.poised [HasOffsets α] (hu : Unfailing metrics τ)
    {hear : TabListener σ → TabListener τ} {p : TabRow α τ (Timing α) × τ}
    (hp : LaidOut hear p) : Poised metrics p.1 := by
  induction hp with
  | @laid p q bounds run =>
    have hends : Ends (layout bounds) p _ := ends_layout_poised hu bounds
    exact (ends_of_run run).mp hends
  | @kept p q r op _ run restyled ih =>
    have keeps (hop : Keeps (fun p => Poised metrics p.1)
        (op.run hear : Step (TabRow α τ (Timing α)) τ Unit)) : Poised metrics q.1 :=
      (ends_of_run run).mp (hop p ih)
    cases op with
    | setStyle style =>
      have hends : Ends (setStyle style) p _ := ends_setStyle_refused hu style
      cases r with
      | ok _ => exact (restyled style rfl rfl).elim
      | error e =>
        have hsame : q.1 = p.1 := (ends_of_run run).mp hends e rfl
        rwa [hsame]
    | setItems items => exact keeps (poised_setItems hu items)
    | setSelected selected => exact keeps (poised_setSelected hu selected)
    | setScroll offset => exact keeps (poised_setScroll hu offset)
    | setOnSelect listener => exact keeps (Step.keeps_update fun _ _ hq => ⟨hq.scroll, hq.aligned⟩)
    | setFlags flags => exact keeps (Step.keeps_update fun _ _ hq => ⟨hq.scroll, hq.aligned⟩)
    | setDisabled on => exact keeps (Step.keeps_update fun _ _ hq => ⟨hq.scroll, hq.aligned⟩)
    | step dt => exact keeps (keeps_ignore (poised_step dt))
    | measure width height => exact keeps (keeps_ignore (poised_measure width height))
    | layout bounds =>
      have hends : Ends (TabRow.layout bounds) p _ := ends_layout_poised hu bounds
      have hq := (ends_of_run run).mp hends
      cases r with
      | ok _ => exact hq
      | error e => exact hq ih
    | paint => exact keeps (poised_paint hu)
    | event e => exact keeps (keeps_ignore (poised_handleEvent hu e))
    | destroy => exact keeps poised_destroy

end TabRow

end Widgetry
