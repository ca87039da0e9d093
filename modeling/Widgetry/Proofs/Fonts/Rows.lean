import Widgetry.Proofs.Fonts.Ledger
import Widgetry.Proofs.Operations
import Widgetry.Proofs.Segmented.Frame
import Widgetry.Proofs.Tabs.Core

/-! Tab rows and groups of segments account for their fonts through every operation. Their
listeners run in between and are recorded, but have no font of the widget. -/
namespace Widgetry

open Ledger
open OwnedFont (measures_held draws_held keeps_releaseIn keeps_replaceIn)
open Step (At)

variable {α σ χ ω β : Type} {held others : List FontHandle}

theorem keeps_hearTab (listener : TabListener σ) (index : Nat) :
    Keeps (Held held) (Traced.hearTab listener index) := by
  intro t h
  apply (Traced.ends_call _ _).mpr
  exact (ends_run _ _).imp fun _ _ _ => h.used (by simp [HostCall.font?]) rfl rfl

theorem keeps_hearSegment (listener : SegmentListener σ) (index : Nat) (on : Bool) :
    Keeps (Held held) (Traced.hearSegment listener index on) := by
  intro t h
  apply (Traced.ends_call _ _).mpr
  exact (ends_run _ _).imp fun _ _ _ => h.used (by simp [HostCall.font?]) rfl rfl

section Listening

variable {ι κ φ : Type} {hear : κ → ι} {onSelect : ω → Option ι} {font : ω → OwnedFont}

/-- A listener, if there is one, is recorded, and the fonts are accounted for. -/
structure Listening (hear : κ → ι) (onSelect : ω → Option ι) (font : ω → OwnedFont)
    (others : List FontHandle) (p : ω × Traced σ) : Prop where
  heard : ∃ listener : Option κ, onSelect p.1 = listener.map hear
  fonts : Owning (fun w => (font w).toList) others p

namespace Listening

theorem keeps_of_at {part : ω → φ} {act : Step ω (Traced σ) β}
    (hfont : ∀ w w', part w' = part w → font w' = font w)
    (hlisten : ∀ w w', part w' = part w → onSelect w' = onSelect w)
    (h : ∀ w, Keeps (At part (part w) (Held ((font w).toList ++ others))) act) :
    Keeps (Listening hear onSelect font others) act := by
  rintro ⟨w, t⟩ ⟨heard, hfonts⟩
  apply (h w).ends ⟨rfl, hfonts⟩
  rintro r ⟨w', t'⟩ ⟨hw, ht⟩
  refine ⟨?_, ?_⟩
  · rwa [hlisten w w' hw]
  · rwa [Owning, hfont w w' hw]

theorem keeps_update {f : ω → ω} (hfont : ∀ w, font (f w) = font w)
    (hlisten : ∀ w, onSelect (f w) = onSelect w) :
    Keeps (Listening hear onSelect font others) (Step.update f : Step ω (Traced σ) Unit) := by
  refine Step.keeps_update fun w t ⟨heard, hfonts⟩ => ⟨?_, ?_⟩
  · rwa [hlisten]
  · rwa [Owning, hfont]

theorem keeps_and {act : Step ω (Traced σ) β}
    (hlisten : ∀ l, Keeps (At onSelect l fun _ => True) act)
    (hfont : Keeps (Owning (fun w => (font w).toList) others) act) :
    Keeps (Listening hear onSelect font others) act := by
  rintro ⟨w, t⟩ ⟨heard, hfonts⟩
  refine ((hlisten (onSelect w) (w, t) ⟨rfl, trivial⟩).and (hfont (w, t) hfonts)).imp ?_
  rintro r ⟨w', t'⟩ ⟨⟨hl, -⟩, ht⟩
  exact ⟨by rwa [← hl] at heard, ht⟩

theorem keeps_host {act : HostM (Traced σ) β} (h : ∀ held, Keeps (Held held) act) :
    Keeps (Listening hear onSelect font others) (Step.host act : Step ω (Traced σ) β) :=
  Step.keeps_host fun _ t ⟨heard, hfonts⟩ => (h _ t hfonts).imp fun _ _ ht => ⟨heard, ht⟩

section Part

variable [TextHost α σ] {put : OwnedFont → ω → ω}

theorem keeps_releaseIn (hput : ∀ w, put (font w) w = w) (hget : ∀ f w, font (put f w) = f)
    (hlisten : ∀ f w, onSelect (put f w) = onSelect w) :
    Keeps (Listening hear onSelect font others)
      (Step.zoom font put OwnedFont.release : Step ω (Traced σ) Unit) :=
  keeps_and (fun _ => Step.keeps_at_zoom hlisten (.of_true _)) (OwnedFont.keeps_releaseIn hput hget)

/-- A style comes with a font: either both are taken over or neither is. -/
theorem keeps_restyle (hget : ∀ f w, font (put f w) = f)
    (hlisten : ∀ f w, onSelect (put f w) = onSelect w) (valid : Except Error Unit)
    (style : TextStyle α) {restyle : ω → ω} (hfont : ∀ w, font (restyle w) = font w)
    (hl : ∀ w, onSelect (restyle w) = onSelect w) :
    Keeps (Listening hear onSelect font others) (do
      Step.check valid
      let made ← Step.host (OwnedFont.create style)
      Step.zoom font put (OwnedFont.replace made)
      Step.update restyle : Step ω (Traced σ) Unit) := by
  refine (Step.keeps_check _).bind fun _ => keeps_and (fun l => ?_) ?_
  · refine (Step.keeps_at_host (.of_true _)).bind fun made => ?_
    refine Keeps.bind (Step.keeps_at_zoom hlisten (.of_true _)) fun _ => ?_
    exact Step.keeps_at_update hl
  · refine OwnedFont.keeps_replaceIn hget (OwnedFont.brings_create style) fun _ => ?_
    refine Step.keeps_update fun w t h => ?_
    rwa [Owning, hfont]

end Part

end Listening

end Listening

namespace TabRow

def Owns (others : List FontHandle) : TabRow α (Traced σ) χ × Traced σ → Prop :=
  Listening Traced.hearTab onSelect font others

theorem keeps_owns {act : Step (TabRow α (Traced σ) χ) (Traced σ) β}
    (h : ∀ c, Keeps (At core c (Held (c.font.toList ++ others))) act) : Keeps (Owns others) act :=
  Listening.keeps_of_at (fun _ _ hc => congrArg TabCore.font hc)
    (fun _ _ hc => congrArg TabCore.onSelect hc) fun row => h row.core

theorem keeps_owns_update {f : TabRow α (Traced σ) χ → TabRow α (Traced σ) χ}
    (hfont : ∀ row, (f row).font = row.font) (hlisten : ∀ row, (f row).onSelect = row.onSelect) :
    Keeps (Owns others) (Step.update f : Step (TabRow α (Traced σ) χ) (Traced σ) Unit) :=
  Listening.keeps_update hfont hlisten

variable [TextHost α σ]

theorem keeps_release : Keeps (Owns others)
    (onFont OwnedFont.release : Step (TabRow α (Traced σ) χ) (Traced σ) Unit) :=
  Listening.keeps_releaseIn (fun _ => rfl) (fun _ _ => rfl) fun _ _ => rfl

theorem ends_drop {row : TabRow α (Traced σ) χ} {t : Traced σ}
    (h : Owns others (row, t)) : Ends drop (row, t) fun _ p => Held others p.2 :=
  OwnedFont.ends_dropIn h.fonts

section Shown

variable [Channel α σ χ]

theorem calls_held (font : OwnedFont) :
    Calls (Silent χ) font (Held (font.toList ++ others) : Traced σ → Prop) where
  measureText := measures_held fun _ => List.mem_append_left _
  begin _ _ _ _ := fun _ h => h
  step _ := fun _ h => h
  value := fun _ h => h

end Shown

variable [Scalar α]

theorem keeps_setStyle (style : TabStyle α) : Keeps (Owns others)
    (setStyle style : Step (TabRow α (Traced σ) χ) (Traced σ) Unit) := by
  refine Listening.keeps_restyle ?_ ?_ _ style.text ?_ ?_
  all_goals intros; rfl

variable [Channel α σ χ]

theorem keeps_resnap_owns : Keeps (Owns others)
    (resnap : Step (TabRow α (Traced σ) (Silent χ)) (Traced σ) Unit) :=
  keeps_owns fun c => keeps_resnap (calls_held c.font)

theorem keeps_setItems (items : List String) : Keeps (Owns others)
    (setItems items : Step (TabRow α (Traced σ) (Silent χ)) (Traced σ) Unit) := by
  refine Step.keeps_self_bind fun before _ _ => ?_
  refine Keeps.bind (keeps_owns_update (fun _ => rfl) fun _ => rfl) fun _ => ?_
  refine .ite (fun _ => .pure _) fun _ => ?_
  refine keeps_resnap_owns.tryCatch fun e => ?_
  refine Keeps.bind (keeps_owns_update (fun _ => rfl) fun _ => rfl) fun _ => ?_
  exact (Step.keeps_attempt keeps_resnap_owns).bind fun _ => .throw _

theorem keeps_syncIndicator_owns (layout : TabLayout α) (animate : Bool) : Keeps (Owns others)
    (syncIndicator layout animate : Step (TabRow α (Traced σ) (Silent χ)) (Traced σ) Unit) :=
  keeps_owns fun c => keeps_syncIndicator (calls_held c.font) layout animate

theorem keeps_selectOrRollBack (selected : Option Nat) (layout : TabLayout α)
    {accept : Step (TabRow α (Traced σ) (Silent χ)) (Traced σ) Unit}
    (h : Keeps (Owns others) accept) :
    Keeps (Owns others) (selectOrRollBack selected layout accept) := by
  refine Step.keeps_self_bind fun row _ _ => ?_
  refine Keeps.bind (keeps_owns_update (fun _ => rfl) fun _ => rfl) fun _ => ?_
  refine ((keeps_syncIndicator_owns layout true).bind fun _ => h).tryCatch fun e => ?_
  refine Keeps.bind ?_ fun _ => .throw _
  refine Keeps.bind (keeps_owns_update (fun _ => rfl) fun _ => rfl) fun _ => ?_
  refine (keeps_syncIndicator_owns layout false).tryCatch fun _ => ?_
  exact keeps_owns_update (fun _ => rfl) fun _ => rfl

theorem keeps_setSelected (selected : Option Nat) : Keeps (Owns others)
    (setSelected selected : Step (TabRow α (Traced σ) (Silent χ)) (Traced σ) Unit) := by
  refine Step.keeps_self_bind fun row _ _ => ?_
  refine (Step.keeps_check _).bind fun _ => ?_
  refine .ite (fun _ => keeps_owns_update (fun _ => rfl) fun _ => rfl) fun _ => ?_
  refine (keeps_owns fun c => keeps_currentLayout (calls_held c.font)).bind fun layout => ?_
  exact keeps_selectOrRollBack selected layout (.pure _)

/-- Only here is the listener called, and it is one that is recorded. -/
theorem keeps_commit (index : Nat) (layout : TabLayout α) : Keeps (Owns others)
    (commit index layout : Step (TabRow α (Traced σ) (Silent χ)) (Traced σ) Unit) := by
  refine Step.keeps_self_bind fun row _ hrow => ?_
  obtain ⟨listener, hl⟩ := hrow.heard
  rw [hl]
  refine keeps_selectOrRollBack _ _ ?_
  cases listener with
  | none => exact .pure _
  | some listener => exact Listening.keeps_host fun _ => keeps_hearTab listener index

theorem keeps_hit_owns (point : Point) : Keeps (Owns others)
    (hit point : Step (TabRow α (Traced σ) (Silent χ)) (Traced σ) (TabLayout α × Option Nat)) :=
  keeps_owns fun c => keeps_hit (calls_held c.font) point

theorem keeps_handleEvent (event : InputEvent) : Keeps (Owns others)
    (handleEvent event : Step (TabRow α (Traced σ) (Silent χ)) (Traced σ) Bool) := by
  have hrelease : Keeps (Owns others)
      (release : Step (TabRow α (Traced σ) (Silent χ)) (Traced σ) Unit) :=
    keeps_owns_update (fun _ => rfl) fun _ => rfl
  refine Step.keeps_self_bind fun row _ _ => .ite (fun _ => .pure _) fun _ => ?_
  cases event with
  | pointerDown point =>
    refine (keeps_hit_owns point).bind fun found => Step.keeps_self_bind fun row _ _ => ?_
    refine .ite (fun _ => .throw _) fun _ => ?_
    cases found.2 with
    | none => exact .pure _
    | some index =>
      exact Keeps.bind (keeps_owns_update (fun _ => rfl) fun _ => rfl) fun _ => .pure _
  | pointerUp point =>
    refine (keeps_hit_owns point).bind fun found => Step.keeps_self_bind fun row _ _ => ?_
    cases row.pressed with
    | none => exact .pure _
    | some pressed =>
      refine Keeps.bind (Keeps.tryCatch (.ite (fun _ => ?_) fun _ => .pure _) fun e => ?_)
        fun _ => ?_
      · exact keeps_commit pressed found.1
      · exact hrelease.bind fun _ => .throw _
      · exact hrelease.bind fun _ => .pure _
  | scroll point dx dy => exact keeps_owns fun c => keeps_onScroll (calls_held c.font) dx
  | pointerMove point | keyDown key | keyUp key => exact .pure _

theorem keeps_destroy : Keeps (Owns others)
    (destroy : Step (TabRow α (Traced σ) (Silent χ)) (Traced σ) Unit) := by
  refine Keeps.bind ?_ fun released => ?_
  · exact (keeps_release.bind fun _ => .pure _).tryCatch fun _ => .pure _
  · refine Keeps.bind (Step.keeps_update fun row t h => ?_) fun _ => Step.keeps_check _
    exact ⟨⟨none, rfl⟩, h.fonts⟩

theorem keeps_run [PaintHost α σ] (op : TabOp α σ) : Keeps (Owns others)
    (op.run Traced.hearTab : Step (TabRow α (Traced σ) (Silent χ)) (Traced σ) Unit) := by
  cases op with
  | setItems items => exact keeps_setItems items
  | setStyle style => exact keeps_setStyle style
  | setSelected selected => exact keeps_setSelected selected
  | setScroll offset => exact keeps_owns fun c => keeps_setScroll (calls_held c.font) offset
  | setOnSelect listener => exact Step.keeps_update fun _ _ h => ⟨⟨listener, rfl⟩, h.fonts⟩
  | setFlags flags => exact keeps_owns_update (fun _ => rfl) fun _ => rfl
  | setDisabled on => exact keeps_owns_update (fun _ => rfl) fun _ => rfl
  | step dt => exact keeps_ignore (keeps_owns fun c => keeps_step (calls_held c.font) dt)
  | measure width height =>
    exact keeps_ignore (keeps_owns fun c => keeps_measure (calls_held c.font) width height)
  | layout bounds => exact keeps_owns fun c => keeps_layout (calls_held c.font) bounds
  | paint =>
    exact keeps_owns fun c => keeps_paint (calls_held c.font) keeps_drawRect
      (draws_held fun _ => List.mem_append_left _)
  | event e => exact keeps_ignore (keeps_handleEvent e)
  | destroy => exact keeps_destroy

/-- A new row that cannot place its indicator is dropped. -/
theorem ends_create (style : TabStyle α) (items : List String) (selected : Option Nat)
    (positionChannel widthChannel : Silent χ) {t : Traced σ} (h : Held others t) :
    Ends (create style items selected positionChannel widthChannel) t fun r t' =>
      match r with
      | .ok row => Owns others (row, t')
      | .error _ => Held others t' := by
  refine .of_check (fun _ _ => .of_check (fun _ _ => ?_) fun _ _ => h) fun _ _ => h
  refine (OwnedFont.brings_create style.text others t h).bind (fun font t' ht => ?_)
    fun _ _ ht => ht
  rw [Step.ends_construct, ends_tryCatch]
  have hsync : Keeps (Owns others) (syncIndicator (.unplaced style) false :
      Step (TabRow α (Traced σ) (Silent χ)) (Traced σ) Unit) := keeps_syncIndicator_owns _ false
  refine hsync.ends ?_ ?_
  · exact ⟨⟨none, rfl⟩, ht⟩
  · rintro (e | ⟨⟩) ⟨row, t''⟩ hrow
    · exact (ends_drop hrow).bind (fun _ _ ht => ht) fun _ _ ht => ht
    · exact hrow

end TabRow

namespace SegmentGroup

def Owns (others : List FontHandle) : SegmentGroup α (Traced σ) × Traced σ → Prop :=
  Listening Traced.hearSegment onSelect font others

theorem keeps_owns {act : Step (SegmentGroup α (Traced σ)) (Traced σ) β}
    (h : ∀ group : SegmentGroup α (Traced σ),
      Keeps (At id group (Held (group.font.toList ++ others))) act) : Keeps (Owns others) act :=
  Listening.keeps_of_at (fun _ _ hc => congrArg font hc) (fun _ _ hc => congrArg onSelect hc) h

theorem keeps_owns_update {f : SegmentGroup α (Traced σ) → SegmentGroup α (Traced σ)}
    (hfont : ∀ group, (f group).font = group.font)
    (hlisten : ∀ group, (f group).onSelect = group.onSelect) :
    Keeps (Owns others) (Step.update f : Step (SegmentGroup α (Traced σ)) (Traced σ) Unit) :=
  Listening.keeps_update hfont hlisten

theorem keeps_setItems (items : List String) : Keeps (Owns others)
    (setItems items : Step (SegmentGroup α (Traced σ)) (Traced σ) Unit) := by
  have hitems : ∀ selection, Keeps (Owns others) (Step.update fun group =>
      { group with items, selection, pressed := Validate.inRange items.length group.pressed } :
      Step (SegmentGroup α (Traced σ)) (Traced σ) Unit) :=
    fun _ => keeps_owns_update (fun _ => rfl) fun _ => rfl
  refine Step.keeps_self_bind fun group _ _ => ?_
  cases group.selection with
  | single selected => exact Keeps.bind (.pure _) hitems
  | multi flags => exact (Step.keeps_check _).bind fun _ => Keeps.bind (.pure _) hitems

theorem keeps_setItemsWithStates (items : List String) (flags : List Bool) : Keeps (Owns others)
    (setItemsWithStates items flags : Step (SegmentGroup α (Traced σ)) (Traced σ) Unit) := by
  refine Step.keeps_self_bind fun group _ _ => ?_
  cases group.selection with
  | single selected => exact .throw _
  | multi _ =>
    exact (Step.keeps_check _).bind fun _ => keeps_owns_update (fun _ => rfl) fun _ => rfl

theorem keeps_setSelectedIndex (selected : Option Nat) : Keeps (Owns others)
    (setSelectedIndex selected : Step (SegmentGroup α (Traced σ)) (Traced σ) Unit) := by
  refine Step.keeps_self_bind fun group _ _ => ?_
  cases group.selection with
  | single _ =>
    exact (Step.keeps_check _).bind fun _ => keeps_owns_update (fun _ => rfl) fun _ => rfl
  | multi _ => exact .throw _

theorem keeps_setSelectedState (index : Nat) (on : Bool) : Keeps (Owns others)
    (setSelectedState index on : Step (SegmentGroup α (Traced σ)) (Traced σ) Unit) := by
  refine Step.keeps_self_bind fun group _ _ => ?_
  cases group.selection with
  | single _ => exact .throw _
  | multi flags =>
    refine .ite (fun _ => .throw _) fun _ => ?_
    exact (Step.keeps_check _).bind fun _ => keeps_owns_update (fun _ => rfl) fun _ => rfl

theorem keeps_layout [Scalar α] (bounds : Rect α) : Keeps (Owns others)
    (layout bounds : Step (SegmentGroup α (Traced σ)) (Traced σ) Unit) :=
  (Step.keeps_check _).bind fun _ => keeps_owns_update (fun _ => rfl) fun _ => rfl

/-- Only here is the listener called, and it is one that is recorded. -/
theorem keeps_commit (index : Nat) : Keeps (Owns others)
    (commit index : Step (SegmentGroup α (Traced σ)) (Traced σ) Unit) := by
  refine Step.keeps_self_bind fun group _ hgroup => ?_
  obtain ⟨listener, hl⟩ := hgroup.heard
  refine (Step.keeps_check _).bind fun tapped => ?_
  refine Keeps.bind (keeps_owns_update (fun _ => rfl) fun _ => rfl) fun _ => ?_
  rw [hl]
  cases listener with
  | none => exact .pure _
  | some listener =>
    refine (Listening.keeps_host fun _ => keeps_hearSegment listener _ _).tryCatch fun e => ?_
    exact Keeps.bind (keeps_owns_update (fun _ => rfl) fun _ => rfl) fun _ => .throw _

variable [TextHost α σ]

theorem keeps_release : Keeps (Owns others)
    (onFont OwnedFont.release : Step (SegmentGroup α (Traced σ)) (Traced σ) Unit) :=
  Listening.keeps_releaseIn (fun _ => rfl) (fun _ _ => rfl) fun _ _ => rfl

theorem ends_drop {group : SegmentGroup α (Traced σ)} {t : Traced σ}
    (h : Owns others (group, t)) : Ends drop (group, t) fun _ p => Held others p.2 :=
  OwnedFont.ends_dropIn h.fonts

theorem measures_held (font : OwnedFont) :
    font.Measures α (Held (font.toList ++ others) : Traced σ → Prop) :=
  OwnedFont.measures_held fun _ => List.mem_append_left _

variable [Scalar α]

theorem keeps_destroy : Keeps (Owns others)
    (destroy : Step (SegmentGroup α (Traced σ)) (Traced σ) Unit) := by
  refine Keeps.bind ?_ fun released => ?_
  · exact (keeps_release.bind fun _ => .pure _).tryCatch fun _ => .pure _
  · refine Keeps.bind (Step.keeps_update fun group t h => ?_) fun _ => Step.keeps_check _
    exact ⟨⟨none, rfl⟩, h.fonts⟩

theorem keeps_setStyle (style : SegmentStyle α) : Keeps (Owns others)
    (setStyle style : Step (SegmentGroup α (Traced σ)) (Traced σ) Unit) := by
  refine Listening.keeps_restyle ?_ ?_ _ style.text ?_ ?_
  all_goals intros; rfl

theorem keeps_hit_owns (point : Point) : Keeps (Owns others)
    (hit point : Step (SegmentGroup α (Traced σ)) (Traced σ) (Option Nat)) :=
  keeps_owns fun group => keeps_hit (measures_held group.font) point

theorem keeps_handleEvent (event : InputEvent) : Keeps (Owns others)
    (handleEvent event : Step (SegmentGroup α (Traced σ)) (Traced σ) Bool) := by
  have hcheck : Keeps (Owns others)
      (checkSelection : Step (SegmentGroup α (Traced σ)) (Traced σ) Unit) :=
    Step.keeps_self_bind fun _ _ _ => Step.keeps_check _
  have hrelease : Keeps (Owns others)
      (release : Step (SegmentGroup α (Traced σ)) (Traced σ) Unit) :=
    keeps_owns_update (fun _ => rfl) fun _ => rfl
  refine Step.keeps_self_bind fun group _ _ => .ite (fun _ => .pure _) fun _ => ?_
  cases event with
  | pointerDown point =>
    refine hcheck.bind fun _ => (keeps_hit_owns point).bind fun found => ?_
    refine Step.keeps_self_bind fun group _ _ => .ite (fun _ => .throw _) fun _ => ?_
    cases found with
    | none => exact .pure _
    | some index =>
      exact Keeps.bind (keeps_owns_update (fun _ => rfl) fun _ => rfl) fun _ => .pure _
  | pointerUp point =>
    refine hcheck.bind fun _ => (keeps_hit_owns point).bind fun found => ?_
    refine Step.keeps_self_bind fun group _ _ => ?_
    cases group.pressed with
    | none => exact .pure _
    | some pressed =>
      refine Keeps.bind (Keeps.tryCatch (.ite (fun _ => ?_) fun _ => .pure _) fun e => ?_)
        fun _ => ?_
      · exact keeps_commit pressed
      · exact hrelease.bind fun _ => .throw _
      · exact hrelease.bind fun _ => .pure _
  | scroll _ _ _ | pointerMove _ | keyDown _ | keyUp _ => exact .pure _

theorem keeps_run [PaintHost α σ] (op : SegmentOp α σ) : Keeps (Owns others)
    (op.run Traced.hearSegment : Step (SegmentGroup α (Traced σ)) (Traced σ) Unit) := by
  cases op with
  | setItems items => exact keeps_setItems items
  | setItemsWithStates items flags => exact keeps_setItemsWithStates items flags
  | setStyle style => exact keeps_setStyle style
  | setSelectedIndex selected => exact keeps_setSelectedIndex selected
  | setSelectedState index on => exact keeps_setSelectedState index on
  | setOnSelect listener => exact Step.keeps_update fun _ _ h => ⟨⟨listener, rfl⟩, h.fonts⟩
  | setFlags flags => exact keeps_owns_update (fun _ => rfl) fun _ => rfl
  | setDisabled on => exact keeps_owns_update (fun _ => rfl) fun _ => rfl
  | measure width height =>
    exact keeps_ignore (keeps_owns fun group => keeps_measure (measures_held group.font) _ _)
  | layout bounds => exact keeps_layout bounds
  | paint =>
    exact keeps_owns fun group => keeps_paint (measures_held group.font) keeps_drawRect
      (draws_held fun _ => List.mem_append_left _)
  | event e => exact keeps_ignore (keeps_handleEvent e)
  | destroy => exact keeps_destroy

theorem ends_create (style : SegmentStyle α) (items : List String) (selection : Selection)
    {t : Traced σ} (h : Held others t) :
    Ends (create style items selection) t fun r t' =>
      match r with
      | .ok group => Owns others (group, t')
      | .error _ => Held others t' := by
  refine .of_check (fun _ _ => .of_check (fun _ _ => ?_) fun _ _ => h) fun _ _ => h
  refine (OwnedFont.brings_create style.text others t h).bind (fun font t' ht => ?_)
    fun _ _ ht => ht
  exact ⟨⟨none, rfl⟩, ht⟩

end SegmentGroup

end Widgetry
