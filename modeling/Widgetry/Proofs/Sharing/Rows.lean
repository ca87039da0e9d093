import Widgetry.Proofs.Sharing.Fonts

/-! Tab rows and segmented buttons whose fonts differ by their numbers only. Their listeners are
ones that are heard, and hear the same. -/
namespace Widgetry

variable {α σ τ χ β : Type} {hearTab : TabListener σ → TabListener τ}
  {hearSegment : SegmentListener σ → SegmentListener τ} {F : FontHandle → FontHandle → Prop}
  {R : τ → τ → Prop}

namespace TabRow

/-- The listener of the row is one that is heard. -/
def Hears (hear : TabListener σ → TabListener τ) (row : TabRow α τ χ) : Prop :=
  ∃ listener : Option (TabListener σ), row.onSelect = listener.map hear

abbrev Twins (hear : TabListener σ → TabListener τ) :
    (FontHandle → FontHandle → Prop) → TabRow α τ χ → TabRow α τ χ → Prop :=
  Twin font (fun font row => { row with font }) (Hears hear)

theorem exchanges :
    Exchanges (font : TabRow α τ χ → OwnedFont) (fun font row => { row with font })
      (Hears hearTab) := ⟨fun _ _ => rfl, fun _ _ _ => rfl, fun _ _ h => h⟩

theorem blind_onPosition {act : Step χ τ β} (h : Step.Blind Eq R act) :
    Step.Blind (Twins hearTab F) R (onPosition act : Step (TabRow α τ χ) τ β) := by
  refine Step.agree_zoom ?_ ?_ h
  · rintro row _ ⟨like, heard⟩
    rfl
  · rintro channel _ row _ rfl ⟨like, heard⟩
    exact .twin like heard

theorem blind_onWidth {act : Step χ τ β} (h : Step.Blind Eq R act) :
    Step.Blind (Twins hearTab F) R (onWidth act : Step (TabRow α τ χ) τ β) := by
  refine Step.agree_zoom ?_ ?_ h
  · rintro row _ ⟨like, heard⟩
    rfl
  · rintro channel _ row _ rfl ⟨like, heard⟩
    exact .twin like heard

variable [Scalar α] [TextHost α τ] [PaintHost α τ] [Channel α τ χ]
  (hc : Concurs χ hearTab hearSegment F R)
include hc

theorem blind_currentLayout :
    Step.Blind (Twins hearTab F) R (currentLayout : Step (TabRow α τ χ) τ (TabLayout α)) := by
  refine Step.agree_self_bind ?_
  rintro row _ ⟨like, heard⟩
  refine like.agree_measurer hc.measureText fun measurer measurer' hm => Step.agree_host ?_
  exact row.style.accord_computeLayout hm row.items row.bounds

theorem blind_syncIndicator (layout : TabLayout α) (animate : Bool) :
    Step.Blind (Twins hearTab F) R
      (syncIndicator layout animate : Step (TabRow α τ χ) τ Unit) := by
  refine Step.agree_self_bind ?_
  rintro row _ ⟨like, heard⟩
  refine like.agree_measurer hc.measureText fun measurer measurer' hm => ?_
  refine (Step.agree_host
    (row.style.accord_indicatorTarget hm row.items layout row.selected)).bind fun target => ?_
  have hshow : Step.Blind (Twins hearTab F) R (do
      let indicatorStart ← onPosition Channel.value
      let indicatorWidth ← onWidth Channel.value
      Step.update fun row : TabRow α τ χ => { row with indicatorStart, indicatorWidth }) := by
    refine (blind_onPosition hc.value).bind fun start => ?_
    refine (blind_onWidth hc.value).bind fun width => ?_
    exact blind_update fun _ _ like heard => .twin like heard
  refine .ite (fun _ => ?_) fun _ => ?_
  · refine (blind_onPosition (hc.begin _ _ _ _)).bind fun _ => ?_
    exact (blind_onWidth (hc.begin _ _ _ _)).bind fun _ => hshow
  · refine (blind_onPosition (hc.begin _ _ _ _)).bind fun _ => ?_
    exact (blind_onWidth (hc.begin _ _ _ _)).bind fun _ => hshow

theorem blind_resnap : Step.Blind (Twins hearTab F) R (resnap : Step (TabRow α τ χ) τ Unit) := by
  refine (blind_currentLayout hc).bind fun layout => Step.agree_self_bind ?_
  rintro row _ ⟨like, heard⟩
  refine (Step.agree_check _).bind fun scroll => ?_
  refine (blind_syncIndicator hc layout false).bind fun _ => ?_
  exact blind_update fun _ _ like heard => .twin like heard

theorem blind_rollBack (previous : Option Nat) (layout : TabLayout α) :
    Step.Blind (Twins hearTab F) R (rollBack previous layout : Step (TabRow α τ χ) τ Unit) := by
  refine Accord.bind (blind_update fun _ _ like heard => .twin like heard) fun _ => ?_
  refine (blind_syncIndicator hc layout false).tryCatch fun _ => ?_
  exact blind_update fun _ _ like heard => .twin like heard

theorem blind_selectOrRollBack (selected : Option Nat) (layout : TabLayout α)
    {accept : Step (TabRow α τ χ) τ Unit} (h : Step.Blind (Twins hearTab F) R accept) :
    Step.Blind (Twins hearTab F) R (selectOrRollBack selected layout accept) := by
  refine Step.agree_self_bind ?_
  rintro row _ ⟨like, heard⟩
  refine Accord.bind (blind_update fun _ _ like heard => .twin like heard) fun _ => ?_
  refine ((blind_syncIndicator hc layout true).bind fun _ => h).tryCatch fun e => ?_
  exact (blind_rollBack hc row.selected layout).bind fun _ => .throw e

theorem blind_setItems (items : List String) :
    Step.Blind (Twins hearTab F) R (setItems items : Step (TabRow α τ χ) τ Unit) := by
  refine Step.agree_self_bind ?_
  rintro before _ ⟨like, heard⟩
  refine Accord.bind (blind_update fun _ _ like heard => .twin like heard) fun _ => ?_
  refine .ite (fun _ => .pure ()) fun _ => (blind_resnap hc).tryCatch fun e => ?_
  refine Accord.bind (blind_update fun _ _ like heard => .twin like heard) fun _ => ?_
  exact (Step.agree_attempt (blind_resnap hc)).bind fun _ => .throw e

theorem blind_setSelected (selected : Option Nat) :
    Step.Blind (Twins hearTab F) R (setSelected selected : Step (TabRow α τ χ) τ Unit) := by
  refine Step.agree_self_bind ?_
  rintro row _ ⟨like, heard⟩
  refine (Step.agree_check _).bind fun _ => .ite (fun _ => ?_) fun _ => ?_
  · exact blind_update fun _ _ like heard => .twin like heard
  · refine (blind_currentLayout hc).bind fun layout => ?_
    exact blind_selectOrRollBack hc selected layout (.pure ())

theorem blind_setScroll (offset : α) :
    Step.Blind (Twins hearTab F) R (setScroll offset : Step (TabRow α τ χ) τ Unit) := by
  refine .ite (fun _ => .throw _) fun _ => Step.agree_self_bind ?_
  rintro row _ ⟨like, heard⟩
  dsimp only
  cases row.style.mode with
  | fixed => exact blind_update fun _ _ like heard => .twin like heard
  | scrollable =>
    refine (blind_currentLayout hc).bind fun layout => (Step.agree_check _).bind fun scroll => ?_
    exact blind_update fun _ _ like heard => .twin like heard

theorem blind_stepPosition (dt : α) :
    Step.Blind (Twins hearTab F) R (stepPosition dt : Step (TabRow α τ χ) τ Bool) := by
  refine Step.agree_self_bind ?_
  rintro row _ ⟨like, heard⟩
  refine .ite (fun _ => .pure false) fun _ => ?_
  refine (blind_onPosition (hc.step dt)).bind fun reading => .ite (fun _ => .pure false) fun _ => ?_
  exact Accord.bind (blind_update fun _ _ like heard => .twin like heard) fun _ => .pure true

theorem blind_stepWidth (dt : α) :
    Step.Blind (Twins hearTab F) R (stepWidth dt : Step (TabRow α τ χ) τ Bool) := by
  refine Step.agree_self_bind ?_
  rintro row _ ⟨like, heard⟩
  refine .ite (fun _ => .pure false) fun _ => ?_
  refine (blind_onWidth (hc.step dt)).bind fun reading => .ite (fun _ => .pure false) fun _ => ?_
  exact Accord.bind (blind_update fun _ _ like heard => .twin like heard) fun _ => .pure true

theorem blind_step (dt : α) :
    Step.Blind (Twins hearTab F) R (step dt : Step (TabRow α τ χ) τ Bool) := by
  refine .ite (fun _ => .throw _) fun _ => (blind_stepPosition hc dt).bind fun moved => ?_
  exact (blind_stepWidth hc dt).bind fun resized => .pure _

theorem blind_measure (width height : MeasureSpec α) :
    Step.Blind (Twins hearTab F) R (measure width height : Step (TabRow α τ χ) τ (Size α)) := by
  refine (Step.agree_check _).bind fun _ => (Step.agree_check _).bind fun _ => ?_
  refine Step.agree_self_bind ?_
  rintro row _ ⟨like, heard⟩
  refine like.agree_measurer hc.measureText fun measurer measurer' hm => ?_
  exact (Step.agree_host (row.style.accord_measureContent hm row.items)).bind fun _ => .pure _

theorem blind_layout (bounds : Rect α) :
    Step.Blind (Twins hearTab F) R (layout bounds : Step (TabRow α τ χ) τ Unit) := by
  refine (Step.agree_check _).bind fun _ => Step.agree_self_bind ?_
  rintro row _ ⟨like, heard⟩
  refine like.agree_measurer hc.measureText fun measurer measurer' hm => ?_
  refine (Step.agree_host (row.style.accord_computeLayout hm row.items bounds)).bind
    fun layout => ?_
  refine (Step.agree_check _).bind fun scroll => ?_
  refine Accord.bind ((blind_syncIndicator hc layout false).tryCatch fun e => ?_) fun _ => ?_
  · refine .ite (fun _ => .throw e) fun _ => ?_
    exact (Step.agree_attempt (blind_resnap hc)).bind fun _ => .throw e
  · exact blind_update fun _ _ like heard => .twin like heard

section Paint

variable {font font' : FontHandle}

theorem agree_paintLabels (row : TabRow α τ χ) (held : OwnedFont) (hF : F font font')
    (layout : TabLayout α) (index : Nat) (items : List String) :
    Agree R (row.paintLabels font layout index items : HostM τ Unit)
      (({ row with font := held } : TabRow α τ χ).paintLabels font' layout index items) := by
  induction items generalizing index with
  | nil => exact .pure ()
  | cons item rest ih =>
    have hm := hc.measureText _ _ hF
    refine (row.style.accord_itemRect hm row.items layout index row.scroll).bind fun rect => ?_
    refine .ite (fun _ => ih (index + 1)) fun _ => (hm item).bind fun text => ?_
    exact (hc.drawText _ _ hF _ _ _ _).bind fun _ => ih (index + 1)

theorem blind_paint : Step.Blind (Twins hearTab F) R (paint : Step (TabRow α τ χ) τ Unit) := by
  refine (blind_currentLayout hc).bind fun layout => Step.agree_self_bind ?_
  rintro row _ ⟨like, heard⟩
  refine (Step.agree_check _).bind fun scroll => ?_
  refine Accord.bind (blind_update fun _ _ like heard => .twin like heard) fun _ => ?_
  refine Step.agree_self_bind ?_
  rintro row _ ⟨like, heard⟩
  refine Accord.bind (Step.agree_host ?_) fun _ => Accord.bind (Step.agree_host ?_) fun _ => ?_
  · exact .ite (fun _ => hc.drawRect _ _ _) fun _ => .pure ()
  · exact .ite (fun _ => hc.drawRect _ _ _) fun _ => .pure ()
  refine like.agree_handle fun font font' hF => Step.agree_host ?_
  exact agree_paintLabels hc row _ hF layout 0 row.items

end Paint

theorem blind_hit (point : Point) :
    Step.Blind (Twins hearTab F) R
      (hit point : Step (TabRow α τ χ) τ (TabLayout α × Option Nat)) := by
  refine (blind_currentLayout hc).bind fun layout => Step.agree_self_bind ?_
  rintro row _ ⟨like, heard⟩
  refine (Step.agree_check _).bind fun scroll => ?_
  refine Accord.bind (blind_update fun _ _ like heard => .twin like heard) fun _ => ?_
  refine Step.agree_self_bind ?_
  rintro row _ ⟨like, heard⟩
  refine like.agree_measurer hc.measureText fun measurer measurer' hm => ?_
  exact (Step.agree_host (row.style.accord_hitTest hm row.items layout _ _ row.scroll)).bind
    fun index => .pure _

theorem blind_onScroll (dx : Int) :
    Step.Blind (Twins hearTab F) R (onScroll dx : Step (TabRow α τ χ) τ Bool) := by
  refine Step.agree_self_bind ?_
  rintro row _ ⟨like, heard⟩
  refine .ite (fun _ => .pure false) fun _ => ?_
  exact (blind_setScroll hc _).bind fun _ => .pure true

theorem blind_onPointerDown (point : Point) :
    Step.Blind (Twins hearTab F) R (onPointerDown point : Step (TabRow α τ χ) τ Bool) := by
  refine (blind_hit hc point).bind fun ⟨layout, index⟩ => Step.agree_self_bind ?_
  rintro row _ ⟨like, heard⟩
  refine .ite (fun _ => .throw _) fun _ => ?_
  cases index with
  | none => exact .pure false
  | some index =>
    exact Accord.bind (blind_update fun _ _ like heard => .twin like heard) fun _ => .pure true

theorem blind_commit (index : Nat) (layout : TabLayout α) :
    Step.Blind (Twins hearTab F) R (commit index layout : Step (TabRow α τ χ) τ Unit) := by
  refine Step.agree_self_bind ?_
  rintro row _ ⟨like, listener, heard⟩
  dsimp only
  rw [heard]
  refine blind_selectOrRollBack hc (some index) layout ?_
  cases listener with
  | none => exact .pure ()
  | some listener => exact Step.agree_host (hc.tabTapped listener index)

omit [Scalar α] hc [TextHost α τ] [PaintHost α τ] [Channel α τ χ] in
theorem blind_release :
    Step.Blind (Twins hearTab F) R (release : Step (TabRow α τ χ) τ Unit) :=
  blind_update fun _ _ like heard => .twin like heard

theorem blind_onPointerUp (point : Point) :
    Step.Blind (Twins hearTab F) R (onPointerUp point : Step (TabRow α τ χ) τ Bool) := by
  refine (blind_hit hc point).bind fun ⟨layout, index⟩ => Step.agree_self_bind ?_
  rintro row _ ⟨like, heard⟩
  dsimp only
  cases row.pressed with
  | none => exact .pure false
  | some pressed =>
    refine Accord.bind (Accord.tryCatch ?_ fun e => ?_) fun _ => ?_
    · exact .ite (fun _ => blind_commit hc pressed layout) fun _ => .pure ()
    · exact Accord.bind blind_release fun _ => .throw e
    · exact Accord.bind blind_release fun _ => .pure true

theorem blind_handleEvent (event : InputEvent) :
    Step.Blind (Twins hearTab F) R (handleEvent event : Step (TabRow α τ χ) τ Bool) := by
  refine Step.agree_self_bind ?_
  rintro row _ ⟨like, heard⟩
  refine .ite (fun _ => .pure false) fun _ => ?_
  cases event with
  | scroll point dx dy => exact blind_onScroll hc dx
  | pointerDown point => exact blind_onPointerDown hc point
  | pointerUp point => exact blind_onPointerUp hc point
  | _ => exact .pure false

theorem blind_destroy :
    Step.Blind (Twins hearTab F) R (destroy : Step (TabRow α τ χ) τ Unit) := by
  refine (Step.agree_outcome (exchanges.agree_zoom
    (OwnedFont.blind_release hc.destroyFont))).bind fun released => ?_
  refine Accord.bind (blind_update fun _ _ like _ => ?_) fun _ => Step.agree_check released
  exact .twin like ⟨none, rfl⟩

omit [Scalar α] in
theorem blind_drop : Step.Blind (Twins hearTab F) R (drop : Step (TabRow α τ χ) τ Unit) :=
  Step.agree_attempt (exchanges.agree_zoom (OwnedFont.blind_release hc.destroyFont))

end TabRow

namespace SegmentGroup

/-- The listener of the group is one that is heard. -/
def Hears (hear : SegmentListener σ → SegmentListener τ) (group : SegmentGroup α τ) : Prop :=
  ∃ listener : Option (SegmentListener σ), group.onSelect = listener.map hear

abbrev Twins (hear : SegmentListener σ → SegmentListener τ) :
    (FontHandle → FontHandle → Prop) → SegmentGroup α τ → SegmentGroup α τ → Prop :=
  Twin font (fun font group => { group with font }) (Hears hear)

theorem exchanges :
    Exchanges (font : SegmentGroup α τ → OwnedFont) (fun font group => { group with font })
      (Hears hearSegment) := ⟨fun _ _ => rfl, fun _ _ _ => rfl, fun _ _ h => h⟩

theorem blind_setItems (items : List String) :
    Step.Blind (Twins hearSegment F) R (setItems items : Step (SegmentGroup α τ) τ Unit) := by
  refine Step.agree_self_bind ?_
  rintro group _ ⟨like, heard⟩
  dsimp only
  cases group.selection with
  | single selected =>
    exact (Accord.pure _).bind fun _ => blind_update fun _ _ like heard => .twin like heard
  | multi flags =>
    refine (Step.agree_check _).bind fun _ => (Accord.pure _).bind fun _ => ?_
    exact blind_update fun _ _ like heard => .twin like heard

theorem blind_setItemsWithStates (items : List String) (flags : List Bool) :
    Step.Blind (Twins hearSegment F) R
      (setItemsWithStates items flags : Step (SegmentGroup α τ) τ Unit) := by
  refine Step.agree_self_bind ?_
  rintro group _ ⟨like, heard⟩
  dsimp only
  cases group.selection with
  | single selected => exact .throw _
  | multi _ =>
    refine (Step.agree_check _).bind fun _ => ?_
    exact blind_update fun _ _ like heard => .twin like heard

theorem blind_setSelectedIndex (selected : Option Nat) :
    Step.Blind (Twins hearSegment F) R
      (setSelectedIndex selected : Step (SegmentGroup α τ) τ Unit) := by
  refine Step.agree_self_bind ?_
  rintro group _ ⟨like, heard⟩
  dsimp only
  cases group.selection with
  | single _ =>
    refine (Step.agree_check _).bind fun _ => ?_
    exact blind_update fun _ _ like heard => .twin like heard
  | multi flags => exact .throw _

theorem blind_setSelectedState (index : Nat) (on : Bool) :
    Step.Blind (Twins hearSegment F) R
      (setSelectedState index on : Step (SegmentGroup α τ) τ Unit) := by
  refine Step.agree_self_bind ?_
  rintro group _ ⟨like, heard⟩
  dsimp only
  cases group.selection with
  | single _ => exact .throw _
  | multi flags =>
    refine .ite (fun _ => .throw _) fun _ => (Step.agree_check _).bind fun _ => ?_
    exact blind_update fun _ _ like heard => .twin like heard

theorem blind_release :
    Step.Blind (Twins hearSegment F) R (release : Step (SegmentGroup α τ) τ Unit) :=
  blind_update fun _ _ like heard => .twin like heard

theorem blind_checkSelection :
    Step.Blind (Twins hearSegment F) R (checkSelection : Step (SegmentGroup α τ) τ Unit) := by
  refine Step.agree_self_bind ?_
  rintro group _ ⟨like, heard⟩
  exact Step.agree_check _

variable [Scalar α]

theorem blind_layout (bounds : Rect α) :
    Step.Blind (Twins hearSegment F) R (layout bounds : Step (SegmentGroup α τ) τ Unit) :=
  (Step.agree_check _).bind fun _ => blind_update fun _ _ like heard => .twin like heard

variable [TextHost α τ] [PaintHost α τ] [Channel α τ χ] (hc : Concurs χ hearTab hearSegment F R)
include hc

omit [Scalar α] in
theorem blind_commit (index : Nat) :
    Step.Blind (Twins hearSegment F) R (commit index : Step (SegmentGroup α τ) τ Unit) := by
  refine Step.agree_self_bind ?_
  rintro group _ ⟨like, listener, heard⟩
  refine (Step.agree_check _).bind fun ⟨selection, on⟩ => ?_
  refine Accord.bind (blind_update fun _ _ like heard => .twin like heard) fun _ => ?_
  dsimp only
  rw [heard]
  cases listener with
  | none => exact .pure ()
  | some listener =>
    refine (Step.agree_host (hc.segmentTapped listener index on)).tryCatch fun e => ?_
    exact Accord.bind (blind_update fun _ _ like heard => .twin like heard) fun _ => .throw e

theorem blind_currentLayout :
    Step.Blind (Twins hearSegment F) R
      (currentLayout : Step (SegmentGroup α τ) τ (SegmentLayout α)) := by
  refine Step.agree_self_bind ?_
  rintro group _ ⟨like, heard⟩
  refine like.agree_measurer hc.measureText fun measurer measurer' hm => Step.agree_host ?_
  exact group.style.accord_computeLayout hm group.items group.bounds

theorem blind_measure (width height : MeasureSpec α) :
    Step.Blind (Twins hearSegment F) R
      (measure width height : Step (SegmentGroup α τ) τ (Size α)) := by
  refine (Step.agree_check _).bind fun _ => (Step.agree_check _).bind fun _ => ?_
  refine Step.agree_self_bind ?_
  rintro group _ ⟨like, heard⟩
  refine like.agree_measurer hc.measureText fun measurer measurer' hm => ?_
  exact (Step.agree_host (group.style.accord_measureContent hm group.items)).bind fun _ => .pure _

section Paint

variable {font font' : FontHandle} {group : SegmentGroup α τ} {held : OwnedFont}

theorem agree_paintOutline (segment : Rect α) (corner : α) (colors : SegmentColors α) :
    Agree R (group.paintOutline segment corner colors : HostM τ (Rect α × α))
      (({ group with font := held } : SegmentGroup α τ).paintOutline segment corner colors) := by
  refine .ite (fun _ => ?_) fun _ => .pure _
  exact (hc.drawRect _ _ _).bind fun _ => (Accord.check _).bind fun inner => .pure _

theorem agree_paintLabel (hF : F font font') (segment : Rect α) (item : String)
    (colors : SegmentColors α) :
    Agree R (paintLabel font segment item colors : HostM τ Unit)
      (paintLabel font' segment item colors) := by
  refine .ite (fun _ => .pure ()) fun _ => (hc.measureText _ _ hF item).bind fun text => ?_
  exact hc.drawText _ _ hF _ _ _ _

theorem agree_paintSegment (hF : F font font') (layout : SegmentLayout α) (index : Nat)
    (last : Bool) (item : String) :
    Agree R (group.paintSegment font layout index last item : HostM τ Unit)
      (({ group with font := held } : SegmentGroup α τ).paintSegment font' layout index last
        item) := by
  refine (Accord.check _).bind fun segment => ?_
  refine (agree_paintOutline hc segment _ _).bind fun ⟨inner, corner⟩ => ?_
  refine Accord.bind ?_ fun _ => agree_paintLabel hc hF segment item _
  exact .ite (fun _ => hc.drawRect _ _ _) fun _ => .pure ()

theorem agree_paintSegments (hF : F font font') (layout : SegmentLayout α) (index : Nat)
    (items : List String) :
    Agree R (group.paintSegments font layout index items : HostM τ Unit)
      (({ group with font := held } : SegmentGroup α τ).paintSegments font' layout index
        items) := by
  induction items generalizing index with
  | nil => exact .pure ()
  | cons item rest ih =>
    exact (agree_paintSegment hc hF layout index rest.isEmpty item).bind fun _ => ih (index + 1)

theorem blind_paint :
    Step.Blind (Twins hearSegment F) R (paint : Step (SegmentGroup α τ) τ Unit) := by
  refine (blind_currentLayout hc).bind fun layout => Step.agree_self_bind ?_
  rintro group _ ⟨like, heard⟩
  refine like.agree_handle fun font font' hF => Step.agree_host ?_
  exact agree_paintSegments hc hF layout 0 group.items

end Paint

theorem blind_hit (point : Point) :
    Step.Blind (Twins hearSegment F) R
      (hit point : Step (SegmentGroup α τ) τ (Option Nat)) := by
  refine (blind_currentLayout hc).bind fun layout => Step.agree_self_bind ?_
  rintro group _ ⟨like, heard⟩
  exact Step.agree_check _

theorem blind_onPointerDown (point : Point) :
    Step.Blind (Twins hearSegment F) R
      (onPointerDown point : Step (SegmentGroup α τ) τ Bool) := by
  refine (blind_hit hc point).bind fun index => Step.agree_self_bind ?_
  rintro group _ ⟨like, heard⟩
  refine .ite (fun _ => .throw _) fun _ => ?_
  cases index with
  | none => exact .pure false
  | some index =>
    exact Accord.bind (blind_update fun _ _ like heard => .twin like heard) fun _ => .pure true

theorem blind_onPointerUp (point : Point) :
    Step.Blind (Twins hearSegment F) R (onPointerUp point : Step (SegmentGroup α τ) τ Bool) := by
  refine (blind_hit hc point).bind fun index => Step.agree_self_bind ?_
  rintro group _ ⟨like, heard⟩
  dsimp only
  cases group.pressed with
  | none => exact .pure false
  | some pressed =>
    refine Accord.bind (Accord.tryCatch ?_ fun e => ?_) fun _ => ?_
    · exact .ite (fun _ => blind_commit hc pressed) fun _ => .pure ()
    · exact Accord.bind blind_release fun _ => .throw e
    · exact Accord.bind blind_release fun _ => .pure true

theorem blind_handleEvent (event : InputEvent) :
    Step.Blind (Twins hearSegment F) R
      (handleEvent event : Step (SegmentGroup α τ) τ Bool) := by
  refine Step.agree_self_bind ?_
  rintro group _ ⟨like, heard⟩
  refine .ite (fun _ => .pure false) fun _ => ?_
  cases event with
  | pointerDown point =>
    exact Accord.bind blind_checkSelection fun _ => blind_onPointerDown hc point
  | pointerUp point => exact Accord.bind blind_checkSelection fun _ => blind_onPointerUp hc point
  | _ => exact .pure false

theorem blind_destroy :
    Step.Blind (Twins hearSegment F) R (destroy : Step (SegmentGroup α τ) τ Unit) := by
  refine (Step.agree_outcome (exchanges.agree_zoom
    (OwnedFont.blind_release hc.destroyFont))).bind fun released => ?_
  refine Accord.bind (blind_update fun _ _ like _ => ?_) fun _ => Step.agree_check released
  exact .twin like ⟨none, rfl⟩

omit [Scalar α] in
theorem blind_drop :
    Step.Blind (Twins hearSegment F) R (drop : Step (SegmentGroup α τ) τ Unit) :=
  Step.agree_attempt (exchanges.agree_zoom (OwnedFont.blind_release hc.destroyFont))

end SegmentGroup

end Widgetry
