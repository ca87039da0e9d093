import Widgetry.Proofs.Host.Measuring
import Widgetry.Tabs.Row

/-! What a tab row is about, apart from where it is shown. Laying out, moving the indicator,
scrolling and painting leave it alone and need nothing of the host but measured labels and the
channels. What the other operations come down to is said once, for all that is proved of them. -/
namespace Widgetry

/-- A row without its bounds, its scroll offset and the state of its indicator. -/
structure TabCore (α σ : Type) where
  style : TabStyle α
  items : List String
  font : OwnedFont
  flags : WidgetFlags
  selected : Option Nat
  pressed : Option Nat
  onSelect : Option (TabListener σ)

open Step (At)

namespace TabRow

variable {α σ χ β : Type}

def core (row : TabRow α σ χ) : TabCore α σ :=
  ⟨row.style, row.items, row.font, row.flags, row.selected, row.pressed, row.onSelect⟩

variable {c : TabCore α σ} {inv : σ → Prop}

theorem keeps_onPosition {act : Step χ σ β} (h : Keeps (fun p : χ × σ => inv p.2) act) :
    Keeps (At core c inv) (onPosition act : Step (TabRow α σ χ) σ β) :=
  Step.keeps_at_zoom (fun _ _ => rfl) h

theorem keeps_onWidth {act : Step χ σ β} (h : Keeps (fun p : χ × σ => inv p.2) act) :
    Keeps (At core c inv) (onWidth act : Step (TabRow α σ χ) σ β) :=
  Step.keeps_at_zoom (fun _ _ => rfl) h

variable [TextHost α σ] [Channel α σ χ]

/-- What a row with this font does to its host when it shows itself keeps `inv`. -/
structure Calls (χ : Type) [Channel α σ χ] (font : OwnedFont) (inv : σ → Prop) : Prop where
  measureText : font.Measures α inv
  begin : ∀ start target duration easing,
    Keeps (fun p : χ × σ => inv p.2) (Channel.begin start target duration easing)
  step : ∀ dt, Keeps (fun p : χ × σ => inv p.2) (Channel.step dt)
  value : Keeps (fun p : χ × σ => inv p.2) Channel.value

theorem calls_true (font : OwnedFont) : Calls χ font (fun _ : σ => True) where
  measureText _ _ _ := .of_true _
  begin _ _ _ _ := .of_true _
  step _ := .of_true _
  value := .of_true _

theorem Calls.measures (hc : Calls χ c.font inv) {row : TabRow α σ χ} (hr : row.core = c) :
    row.font.Measures α inv := by
  subst hr
  exact hc.measureText

variable [Scalar α]

theorem keeps_currentLayout (hc : Calls χ c.font inv) :
    Keeps (At core c inv) (currentLayout : Step (TabRow α σ χ) σ (TabLayout α)) := by
  refine Step.keeps_at_self fun row hr => ?_
  refine OwnedFont.keeps_measurer (hc.measures hr) fun measurer hm => ?_
  exact Step.keeps_at_host (row.style.keeps_computeLayout hm row.items row.bounds)

theorem keeps_syncIndicator (hc : Calls χ c.font inv) (layout : TabLayout α) (animate : Bool) :
    Keeps (At core c inv) (syncIndicator layout animate : Step (TabRow α σ χ) σ Unit) := by
  refine Step.keeps_at_self fun row hr => ?_
  refine OwnedFont.keeps_measurer (hc.measures hr) fun measurer hm => ?_
  refine (Step.keeps_at_host (row.style.keeps_indicatorTarget hm _ _ _)).bind fun target => ?_
  dsimp only
  split
  all_goals
    refine (keeps_onPosition (hc.begin _ _ _ _)).bind fun _ => ?_
    refine (keeps_onWidth (hc.begin _ _ _ _)).bind fun _ => ?_
    refine (keeps_onPosition hc.value).bind fun _ => ?_
    refine (keeps_onWidth hc.value).bind fun _ => ?_
    exact Step.keeps_at_update fun _ => rfl

theorem keeps_resnap (hc : Calls χ c.font inv) :
    Keeps (At core c inv) (resnap : Step (TabRow α σ χ) σ Unit) := by
  refine (keeps_currentLayout hc).bind fun layout => ?_
  refine Step.keeps_at_self fun row _ => ?_
  refine (Step.keeps_check _).bind fun scroll => ?_
  refine (keeps_syncIndicator hc layout false).bind fun _ => ?_
  exact Step.keeps_at_update fun _ => rfl

theorem keeps_setScroll (hc : Calls χ c.font inv) (offset : α) :
    Keeps (At core c inv) (setScroll offset : Step (TabRow α σ χ) σ Unit) := by
  refine .ite (fun _ => .throw _) fun _ => ?_
  refine Step.keeps_at_self fun row _ => ?_
  split
  · exact Step.keeps_at_update fun _ => rfl
  · refine (keeps_currentLayout hc).bind fun layout => ?_
    refine (Step.keeps_check _).bind fun scroll => ?_
    exact Step.keeps_at_update fun _ => rfl

theorem keeps_stepPosition (hc : Calls χ c.font inv) (dt : α) :
    Keeps (At core c inv) (stepPosition dt : Step (TabRow α σ χ) σ Bool) := by
  refine Step.keeps_at_self fun row _ => ?_
  refine .ite (fun _ => .pure _) fun _ => ?_
  refine (keeps_onPosition (hc.step dt)).bind fun reading => ?_
  refine .ite (fun _ => .pure _) fun _ => ?_
  exact Keeps.bind (Step.keeps_at_update fun _ => rfl) fun _ => .pure _

theorem keeps_stepWidth (hc : Calls χ c.font inv) (dt : α) :
    Keeps (At core c inv) (stepWidth dt : Step (TabRow α σ χ) σ Bool) := by
  refine Step.keeps_at_self fun row _ => ?_
  refine .ite (fun _ => .pure _) fun _ => ?_
  refine (keeps_onWidth (hc.step dt)).bind fun reading => ?_
  refine .ite (fun _ => .pure _) fun _ => ?_
  exact Keeps.bind (Step.keeps_at_update fun _ => rfl) fun _ => .pure _

theorem keeps_step (hc : Calls χ c.font inv) (dt : α) :
    Keeps (At core c inv) (step dt : Step (TabRow α σ χ) σ Bool) := by
  refine .ite (fun _ => .throw _) fun _ => ?_
  refine (keeps_stepPosition hc dt).bind fun moved => ?_
  exact (keeps_stepWidth hc dt).bind fun _ => .pure _

theorem keeps_measure (hc : Calls χ c.font inv) (width height : MeasureSpec α) :
    Keeps (At core c inv) (measure width height : Step (TabRow α σ χ) σ (Size α)) := by
  refine (Step.keeps_check _).bind fun _ => ?_
  refine (Step.keeps_check _).bind fun _ => ?_
  refine Step.keeps_at_self fun row hr => ?_
  refine OwnedFont.keeps_measurer (hc.measures hr) fun measurer hm => ?_
  refine (Step.keeps_at_host (row.style.keeps_measureContent hm row.items)).bind fun _ => .pure _

theorem keeps_hit (hc : Calls χ c.font inv) (point : Point) :
    Keeps (At core c inv) (hit point : Step (TabRow α σ χ) σ (TabLayout α × Option Nat)) := by
  refine (keeps_currentLayout hc).bind fun layout => ?_
  refine Step.keeps_at_self fun _ _ => ?_
  refine (Step.keeps_check _).bind fun scroll => ?_
  refine Keeps.bind (Step.keeps_at_update fun _ => rfl) fun _ => ?_
  refine Step.keeps_at_self fun row hr => ?_
  refine OwnedFont.keeps_measurer (hc.measures hr) fun measurer hm => ?_
  exact (Step.keeps_at_host (row.style.keeps_hitTest hm _ _ _ _ _)).bind fun _ => .pure _

theorem keeps_onScroll (hc : Calls χ c.font inv) (dx : Int) :
    Keeps (At core c inv) (onScroll dx : Step (TabRow α σ χ) σ Bool) := by
  refine Step.keeps_at_self fun row _ => ?_
  refine .ite (fun _ => .pure _) fun _ => ?_
  exact (keeps_setScroll hc _).bind fun _ => .pure _

theorem keeps_layout (hc : Calls χ c.font inv) (bounds : Rect α) :
    Keeps (At core c inv) (layout bounds : Step (TabRow α σ χ) σ Unit) := by
  refine (Step.keeps_check _).bind fun _ => Step.keeps_at_self fun row hr => ?_
  refine OwnedFont.keeps_measurer (hc.measures hr) fun measurer hm => ?_
  refine (Step.keeps_at_host (row.style.keeps_computeLayout hm _ _)).bind fun layout => ?_
  refine (Step.keeps_check _).bind fun scroll => ?_
  refine Keeps.bind ?_ fun _ => Step.keeps_at_update fun _ => rfl
  refine (keeps_syncIndicator hc layout false).tryCatch fun e => ?_
  refine .ite (fun _ => .throw _) fun _ => ?_
  exact (Step.keeps_attempt (keeps_resnap hc)).bind fun _ => .throw _

section Outcome

variable {row : TabRow α σ χ} {h : σ} {post : Except Error Unit → TabRow α σ χ × σ → Prop}

/-- The row with other items. A selection or a press that they have no place for is gone. -/
def refill (row : TabRow α σ χ) (items : List String) : TabRow α σ χ :=
  { row with
    items
    selected := Validate.inRange items.length row.selected
    pressed := Validate.inRange items.length row.pressed }

/-- The row with the items, the selection and the press that it had before. -/
def restore (row before : TabRow α σ χ) : TabRow α σ χ :=
  { row with items := before.items, selected := before.selected, pressed := before.pressed }

/-- A placed row is snapped to its new items; if that fails, to those it had, as far as it goes. -/
theorem ends_setItems_iff {items : List String} :
    Ends (setItems items) (row, h) post ↔
      if row.bounds.isDegenerate then post (.ok ()) (row.refill items, h)
      else Ends resnap (row.refill items, h) fun r q =>
        match r with
        | .ok () => post (.ok ()) q
        | .error e => Ends resnap (q.1.restore row, q.2) fun _ q => post (.error e) q := by
  rw [setItems, ends_bind, Step.ends_self]
  dsimp only
  rw [ends_bind, Step.ends_update]
  dsimp only
  split
  · exact Iff.rfl
  · rw [ends_tryCatch]
    constructor
    all_goals
      intro hends
      apply hends.imp
      rintro (e | ⟨⟩) q hq
    · simpa [restore] using hq
    · exact hq
    · simpa [restore] using hq
    · exact hq

/-- What is left of a row that was destroyed. -/
def cleared (row : TabRow α σ χ) : TabRow α σ χ :=
  { row with
    items := []
    selected := none
    pressed := none
    bounds := .zero
    scroll := 0
    contentWidth := 0
    indicatorStart := 0
    indicatorWidth := 0
    positionChannel := Channel.reset σ row.positionChannel
    widthChannel := Channel.reset σ row.widthChannel
    onSelect := none }

/-- The row is cleared whether its font could be given back or not. -/
theorem ends_destroy :
    Ends destroy (row, h) post ↔
      Ends (onFont OwnedFont.release) (row, h) fun r q => post r (q.1.cleared, q.2) := by
  rw [destroy, ends_bind, ends_outcome]
  simp only [Step.ends_update, Step.ends_check, ends_bind]
  exact Iff.rfl

/-- A new row, before its indicator is placed. -/
def fresh (style : TabStyle α) (items : List String) (font : OwnedFont) (selected : Option Nat)
    (positionChannel widthChannel : χ) : TabRow α σ χ where
  style := style
  items := items
  font := font
  flags := ⟨WidgetFlags.focusable⟩
  selected := selected
  pressed := none
  bounds := .zero
  scroll := 0
  contentWidth := 0
  indicatorStart := 0
  indicatorWidth := 0
  positionChannel := positionChannel
  widthChannel := widthChannel
  onSelect := none

/-- A row that is made was checked, and its indicator has been placed. -/
theorem ends_create_ok (style : TabStyle α) (items : List String) (selected : Option Nat)
    (positionChannel widthChannel : χ) (h : σ) :
    Ends (create style items selected positionChannel widthChannel) h fun r h' =>
      ∀ row, r = .ok row → style.validate true = .ok () ∧
        Validate.selection selected items.length = .ok () ∧ ∃ font h₀,
          (syncIndicator (.unplaced style) false).run
            (fresh style items font selected positionChannel widthChannel, h₀) =
              (.ok (), row, h') := by
  refine .of_check (fun _ hvalid => ?_) fun _ _ _ hr => (error_ne_ok hr).elim
  refine .of_check (fun _ hselected => ?_) fun _ _ _ hr => (error_ne_ok hr).elim
  refine Ends.bind (ends_run _ _) (fun font h₀ _ => ?_) fun _ _ _ _ hr => (error_ne_ok hr).elim
  rw [Step.ends_construct]
  refine (ends_run _ _).tryCatch ?_ fun e q _ => ?_
  · rintro ⟨⟩ q hrun _ ⟨⟩
    exact ⟨hvalid, hselected, font, h₀, hrun⟩
  · rw [ends_bind, drop, Step.ends_attempt]
    exact (ends_run _ _).imp fun _ _ _ _ hr => (error_ne_ok hr).elim

end Outcome

section Event

variable {p : TabRow α σ χ × σ} {event : InputEvent}
  {post : Except Error Bool → TabRow α σ χ × σ → Prop}

theorem ends_handleEvent_disabled (hd : p.1.flags.has WidgetFlags.disabled) :
    Ends (handleEvent event) p post ↔ post (.ok false) p := by
  unfold handleEvent
  rw [ends_bind, Step.ends_self]
  dsimp only
  rw [if_pos hd, ends_pure]

theorem ends_handleEvent (hd : ¬p.1.flags.has WidgetFlags.disabled) :
    Ends (handleEvent event) p post ↔
      Ends (match event with
        | .scroll _ dx _ => onScroll dx
        | .pointerDown point => onPointerDown point
        | .pointerUp point => onPointerUp point
        | _ => return false) p post := by
  unfold handleEvent
  rw [ends_bind, Step.ends_self]
  cases event
  all_goals
    dsimp only
    rw [if_neg hd]

end Event

section Paint

variable [PaintHost α σ]

omit [Channel α σ χ] in
theorem keeps_paintLabels {row : TabRow α σ χ} {font : FontHandle}
    (hm : ∀ text, Keeps inv (TextHost.measureText font text))
    (hd : ∀ text x y color, Keeps inv (PaintHost.drawText font text x y color))
    (layout : TabLayout α) (index : Nat) (items : List String) :
    Keeps inv (row.paintLabels font layout index items) := by
  induction items generalizing index with
  | nil => exact .pure ()
  | cons item rest ih =>
    refine (row.style.keeps_itemRect hm _ _ _ _).bind fun rect => ?_
    refine .ite (fun _ => ih (index + 1)) fun _ => ?_
    refine (hm item).bind fun text => ?_
    exact (hd _ _ _ _).bind fun _ => ih (index + 1)

theorem keeps_paint (hc : Calls χ c.font inv) (hr : DrawsRects α inv)
    (hd : c.font.Draws α inv) :
    Keeps (At core c inv) (paint : Step (TabRow α σ χ) σ Unit) := by
  refine (keeps_currentLayout hc).bind fun layout => ?_
  refine Step.keeps_at_self fun _ _ => ?_
  refine (Step.keeps_check _).bind fun scroll => ?_
  refine Keeps.bind (Step.keeps_at_update fun _ => rfl) fun _ => ?_
  refine Step.keeps_at_self fun row hrow => ?_
  refine (Step.keeps_at_host (.ite (fun _ => hr _ _ _) fun _ => .pure ())).bind fun _ => ?_
  refine (Step.keeps_at_host (.ite (fun _ => hr _ _ _) fun _ => .pure ())).bind fun _ => ?_
  obtain rfl := hrow
  refine OwnedFont.keeps_handle fun font hf => ?_
  exact Step.keeps_at_host
    (keeps_paintLabels (hc.measureText font hf) (hd font hf) layout 0 row.items)

end Paint

end TabRow

end Widgetry
