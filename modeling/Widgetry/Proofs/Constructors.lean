import Widgetry.Badge.Basic
import Widgetry.Label
import Widgetry.Proofs.Fonts.Backend
import Widgetry.Proofs.Segmented.Range
import Widgetry.Proofs.Sheet.Gate
import Widgetry.Proofs.Tabs.Phantoms
import Widgetry.Proofs.Tooltip.Placement
import Widgetry.Tooltip.Basic

/-! Making widgets on a monospace backend. What a constructor checks is all that can go wrong: a
font of a valid style is made, it is live when the first line is measured, and an indicator that is
placed before there are bounds has no negative extent. -/
namespace Widgetry

variable {α : Type} [Scalar α]

theorem TextStyle.validate_true_iff {t : TextStyle α} :
    t.validate true = .ok () ↔ t.family ≠ none ∧ t.validate false = .ok () := by
  have hopen : ¬((false : Bool) = true ∧ t.family = none) := fun h => Bool.false_ne_true h.1
  rw [TextStyle.validate, TextStyle.validate, if_neg hopen]
  refine Validate.guard_eq_ok.trans (and_congr_left' ?_)
  rw [ne_eq, and_iff_right rfl]

theorem SegmentStyle.validate_text {s : SegmentStyle α} {requireFamily : Bool}
    (h : s.validate requireFamily = .ok ()) : s.text.validate requireFamily = .ok () := by
  obtain ⟨-, h⟩ := Validate.seq_eq_ok.mp h
  obtain ⟨-, h⟩ := Validate.seq_eq_ok.mp h
  exact (Validate.seq_eq_ok.mp h).1

theorem BadgeStyle.validate_text {s : BadgeStyle α} (h : s.validate = .ok ()) :
    s.text.validate false = .ok () := by
  obtain ⟨-, h⟩ := Validate.require_eq_ok.mp h
  obtain ⟨-, h⟩ := Validate.require_eq_ok.mp h
  exact (Validate.seq_eq_ok.mp h).1

theorem TooltipStyle.validate_activeText {s : TooltipStyle α} {requireFamily : Bool}
    (h : s.validate requireFamily = .ok ()) :
    ∀ t ∈ s.activeText, t.validate requireFamily = .ok () := by
  obtain ⟨-, h⟩ := Validate.seq_eq_ok.mp h
  obtain ⟨-, h⟩ := Validate.require_eq_ok.mp h
  obtain ⟨-, h⟩ := Validate.require_eq_ok.mp h
  obtain ⟨-, h⟩ := Validate.seq_eq_ok.mp h
  exact Validate.all_eq_ok.mp (Validate.seq_eq_ok.mp h).1

namespace Monospace

variable {m : Monospace α} {style : TextStyle α}

/-- A font that has just been made is live. -/
theorem ends_make (h : style.validate false = .ok ()) :
    Ends (TextHost.createFont style : HostM (Monospace α) FontHandle) m fun r m' =>
      ∃ font, r = .ok font ∧ ∃ size, m'.size? font.id = some size := by
  refine ends_createFont.mpr ?_
  rw [h]
  exact ⟨_, rfl, _, (size?_cast _ _ _).trans (if_pos rfl)⟩

theorem ends_own (h : style.validate false = .ok ()) :
    Ends (OwnedFont.create style : HostM (Monospace α) OwnedFont) m fun r m' =>
      ∃ font, r = .ok font ∧ ∃ handle size, font = .adopt handle ∧
        m'.size? handle.id = some size := by
  refine (ends_make h).bind_ok ?_
  rintro handle m' ⟨size, hsize⟩
  exact ⟨_, rfl, handle, size, rfl, hsize⟩

theorem succeeds_own (h : style.validate false = .ok ()) :
    Succeeds (OwnedFont.create style : HostM (Monospace α) OwnedFont) :=
  succeeds_of_ends fun _ => (ends_own h).imp fun _ _ ⟨font, hr, _⟩ => ⟨font, hr⟩

/-- Measuring in a live font needs no more than its size. -/
theorem agree_measureText (font : FontHandle) (size : α) (text : String) :
    Agree (fun m (_ : Unit) => m.size? font.id = some size)
      (TextHost.measureText font text : HostM (Monospace α) (TextMetrics α))
      (pure (metrics size text)) := by
  refine agree_of_ends fun m _ hm => ends_measureText.mpr ?_
  rw [hm]
  exact ⟨rfl, rfl⟩

end Monospace

namespace TabRow

variable {m : Monospace Binary32} {font : FontHandle} {size : Binary32}

theorem ends_unplacedTarget {style : TabStyle Binary32} {items : List String}
    {selected : Option Nat} (hstyle : style.NonNeg) (hi : Fits items.length selected)
    (hsize : m.size? font.id = some size) :
    Ends (style.indicatorTarget (TextHost.measureText font) items (.unplaced style) selected) m
      fun r _ => ∃ target, r = .ok target := by
  have hagree := style.accord_indicatorTarget (Monospace.agree_measureText font size) items
    (.unplaced style) selected
  have hstill : Succeeds (style.indicatorTarget (fun text => pure (Monospace.metrics size text))
      items (.unplaced style) selected : HostM Unit (Binary32 × Binary32)) :=
    TabStyle.averts_indicatorTarget (fun _ => .pure trivial) hstyle
      (TabLayout.nonNeg_unplaced hstyle) fun _ => hi
  apply (Agree.ends hagree (t := ()) hsize).imp
  intro r _ hboth
  obtain ⟨target, htarget⟩ := ends_of_succeeds hstill ()
  exact ⟨target, hboth.1.trans htarget⟩

/-- Before there are bounds, an indicator can always be placed. -/
theorem ends_syncIndicator_unplaced (row : TabRow Binary32 (Monospace Binary32) (Timing Binary32))
    (hstyle : row.style.NonNeg) (hi : Fits row.items.length row.selected)
    (hfont : row.font = .adopt font) (hsize : m.size? font.id = some size) :
    Ends (syncIndicator (.unplaced row.style) false) (row, m) fun r _ => r = .ok () := by
  rw [syncIndicator, ends_bind, Step.ends_self]
  dsimp only
  rw [ends_bind, Step.ends_check, hfont]
  change Ends (Step.host _ >>= _) _ _
  rw [ends_bind, Step.ends_host]
  apply (ends_unplacedTarget hstyle hi hsize).imp
  rintro _ m' ⟨⟨start, width⟩, rfl⟩
  dsimp only
  rw [if_neg Bool.false_ne_true]
  have hlanded (value : Binary32) :
      Succeeds (Channel.begin value value 0 .linear :
        Step (Timing Binary32) (Monospace Binary32) Unit) :=
    Timing.averts_begin _ _ _ nonNeg_zero
  have hvalue : Succeeds (Channel.value :
      Step (Timing Binary32) (Monospace Binary32) Binary32) := fun _ _ => ⟨trivial, trivial⟩
  refine (ends_of_succeeds ?_ _).imp fun _ _ hr => hr.elim fun _ hr => hr
  refine (Step.succeeds_zoom _ _ (hlanded start)).bind fun _ _ => ?_
  refine (Step.succeeds_zoom _ _ (hlanded width)).bind fun _ _ => ?_
  refine (Step.succeeds_zoom _ _ hvalue).bind fun _ _ => ?_
  refine (Step.succeeds_zoom _ _ hvalue).bind fun _ _ => ?_
  exact Step.yields_update (fun _ _ _ => trivial) trivial

theorem succeeds_create {style : TabStyle Binary32} {items : List String} {selected : Option Nat}
    (hstyle : style.validate true = .ok ()) (hi : Fits items.length selected)
    (positionChannel widthChannel : Timing Binary32) :
    Succeeds (create style items selected positionChannel widthChannel :
      HostM (Monospace Binary32) _) := by
  refine .checked hstyle (.checked (Validate.selection_eq_ok hi) ?_)
  have htext := (TextStyle.validate_true_iff.mp (TabStyle.validate_text hstyle)).2
  refine succeeds_of_ends fun m => (Monospace.ends_own htext).bind_ok ?_
  rintro _ m' ⟨handle, size, rfl, hsize⟩
  have hsync := ends_syncIndicator_unplaced
    (fresh style items (.adopt handle) selected positionChannel widthChannel)
    (TabStyle.nonNeg_of_validate hstyle) hi rfl hsize
  rw [Step.ends_construct]
  refine hsync.tryCatch ?_ fun e _ he => (error_ne_ok he).elim
  rintro _ q ⟨⟩
  exact ⟨_, rfl⟩

end TabRow

theorem SegmentGroup.succeeds_create {style : SegmentStyle α} {items : List String}
    {selection : Selection} (hstyle : style.validate true = .ok ())
    (hselection : selection.Ranged items.length) :
    Succeeds (create style items selection : HostM (Monospace α) _) := by
  refine .checked hstyle (.checked (Selection.validate_eq_ok hselection) ?_)
  have htext := (TextStyle.validate_true_iff.mp (SegmentStyle.validate_text hstyle)).2
  exact (Monospace.succeeds_own htext).bind fun _ _ => .pure trivial

theorem Label.succeeds_create {style : TextStyle α} (hstyle : style.validate true = .ok ())
    (text : String) : Succeeds (create style text : HostM (Monospace α) _) := by
  refine .checked hstyle ?_
  have htext := (TextStyle.validate_true_iff.mp hstyle).2
  exact (Monospace.succeeds_own htext).bind fun _ _ => .pure trivial

namespace Badge

variable {m : Monospace α} {style : BadgeStyle α}

/-- The line of a font that has just been made can be measured. -/
theorem succeeds_loadFont (hstyle : style.validate = .ok ()) :
    Succeeds (loadFont style : HostM (Monospace α) (OwnedFont × TextMetrics α)) := by
  have htext := BadgeStyle.validate_text hstyle
  refine succeeds_of_ends fun m => (Monospace.ends_make htext).bind_ok ?_
  rintro handle m' ⟨size, hsize⟩
  rw [ends_tryCatch, ends_bind]
  refine Monospace.ends_measureText.mpr ?_
  rw [hsize]
  exact ⟨_, rfl⟩

theorem succeeds_create (hstyle : style.validate = .ok ()) (label : Option String) :
    Succeeds (create style label : HostM (Monospace α) _) := by
  have hload : Succeeds (Step.host (loadFont style) : Step (Badge α) (Monospace α) _) :=
    Step.yields_host (I := fun _ => True) (succeeds_loadFont hstyle)
  refine .checked hstyle (succeeds_of_ends fun m => ?_)
  rw [Step.ends_construct]
  cases label with
  | none => exact ⟨_, rfl⟩
  | some label =>
    rw [setLabel, ends_bind, Step.ends_self]
    dsimp only
    rw [if_pos ⟨rfl, nofun⟩, ends_bind, Step.ends_self]
    dsimp only
    rw [ends_bind]
    apply (ends_of_succeeds hload _).imp
    rintro _ q ⟨loaded, rfl⟩
    exact ⟨_, rfl⟩

end Badge

namespace Tooltip

theorem succeeds_createFonts {style : TooltipStyle α} (hstyle : style.validate true = .ok ()) :
    Succeeds (createFonts style : HostM (Monospace α) (OwnedFont × OwnedFont)) := by
  have hown : ∀ t ∈ style.activeText, Succeeds (OwnedFont.create t : HostM (Monospace α) _) := by
    intro t ht
    have htext := TooltipStyle.validate_activeText hstyle t ht
    exact Monospace.succeeds_own (TextStyle.validate_true_iff.mp htext).2
  unfold TooltipStyle.activeText at hown
  unfold createFonts
  cases hvariant : style.variant with
  | plain =>
    rw [hvariant] at hown
    exact (hown _ (.head _)).bind fun _ _ => .pure trivial
  | rich =>
    rw [hvariant] at hown
    refine (hown _ (.head _)).bind fun title _ => Yields.tryCatch ?_ fun e he => (he trivial).elim
    exact (hown _ (.tail _ (.head _))).bind fun _ _ => .pure trivial

theorem succeeds_create {style : TooltipStyle α} {anchor : TooltipAnchor α}
    (hstyle : style.validate true = .ok ()) (hanchor : anchor.Sound)
    (placement : TooltipPlacement) (body : String) :
    Succeeds (create style anchor placement body : HostM (Monospace α) _) := by
  refine .checked hstyle (.checked hanchor.toRect_eq_ok ?_)
  exact (succeeds_createFonts hstyle).bind fun _ _ => .pure trivial

end Tooltip

end Widgetry
