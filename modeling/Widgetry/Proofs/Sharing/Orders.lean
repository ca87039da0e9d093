import Widgetry.Proofs.Sharing.Making

/-! Everything that can be ordered of a widget, from its making to its end, with what is answered.
No order can tell whether its widget is one of many. -/
namespace Widgetry

variable {α σ κ τ χ ω β γ : Type}

inductive Reply (α : Type) where
  | done
  | flag (on : Bool)
  | size (size : Size α)
  | metrics (metrics : TextMetrics α)
  | bounds (bounds : Rect α)
  | content (content : TooltipContent α)
  deriving DecidableEq

/-- Runs a step and gives its answer as a reply. -/
def told (reply : β → Reply α) (act : Step ω τ β) : Step ω τ (Reply α) := do return reply (← act)

theorem ends_told {reply : β → Reply α} {act : Step ω τ β} {p : ω × τ}
    {post : Except Error (Reply α) → ω × τ → Prop} :
    Ends (told reply act) p post ↔ Ends act p fun r q => post (r.map reply) q := by
  rw [told, ends_bind]
  constructor <;> intro h <;> apply h.imp <;> rintro (e | b) q hq <;> exact hq

/-- What can be asked of any widget, whatever its kind. -/
inductive DriveOp (α : Type) where
  | measure (width height : MeasureSpec α)
  | layout (bounds : Rect α)
  | paint
  | event (event : InputEvent)
  | setFlags (flags : WidgetFlags)
  | step (dt : α)
  | destroy

section Ask

variable [Scalar α] [TextHost α τ] [PaintHost α τ] [Channel α τ χ]

def TabOp.ask (hear : TabListener σ → TabListener τ) :
    TabOp α σ → Step (TabRow α τ χ) τ (Reply α)
  | step dt => told .flag (TabRow.step dt)
  | measure width height => told .size (TabRow.measure width height)
  | event e => told .flag (TabRow.handleEvent e)
  | op => told (fun _ => .done) (op.run hear)

omit [Channel α τ χ] in
def SegmentOp.ask (hear : SegmentListener σ → SegmentListener τ) :
    SegmentOp α σ → Step (SegmentGroup α τ) τ (Reply α)
  | measure width height => told .size (SegmentGroup.measure width height)
  | event e => told .flag (SegmentGroup.handleEvent e)
  | op => told (fun _ => .done) (op.run hear)

omit [Channel α τ χ] in
def LabelOp.ask : LabelOp α → Step (Label α) τ (Reply α)
  | metrics => told .metrics Label.metrics
  | measure width height => told .size (Label.measure width height)
  | event e => told .flag (Label.handleEvent e)
  | op => told (fun _ => .done) op.run

omit [Channel α τ χ] in
def BadgeOp.ask : BadgeOp α → Step (Badge α) τ (Reply α)
  | place anchor placement => told .bounds (Badge.place anchor placement)
  | measure width height => told .size (Badge.measure width height)
  | event e => told .flag (Badge.handleEvent e)
  | op => told (fun _ => .done) op.run

omit [Channel α τ χ] in
def TooltipOp.ask : TooltipOp α → Step (Tooltip α) τ (Reply α)
  | content => told .content Tooltip.content
  | measure width height => told .size (Tooltip.measure width height)
  | event e => told .flag (Tooltip.handleEvent e)
  | op => told (fun _ => .done) op.run

/-- An operation of another kind of widget does nothing. -/
def WidgetOp.ask (hearTab : TabListener σ → TabListener τ)
    (hearSegment : SegmentListener σ → SegmentListener τ) :
    WidgetOp α σ → Step (Widget α τ χ) τ (Reply α)
  | tabs op => Widget.dispatch (op.ask hearTab) idle idle idle idle
  | segmented op => Widget.dispatch idle (op.ask hearSegment) idle idle idle
  | label op => Widget.dispatch idle idle op.ask idle idle
  | badge op => Widget.dispatch idle idle idle op.ask idle
  | tooltip op => Widget.dispatch idle idle idle idle op.ask
where
  idle {ω : Type} : Step ω τ (Reply α) := pure .done

def DriveOp.ask : DriveOp α → Step (Widget α τ χ) τ (Reply α)
  | measure width height => told .size (Widget.measure width height)
  | layout bounds => told (fun _ => .done) (Widget.layout bounds)
  | paint => told (fun _ => .done) Widget.paint
  | event e => told .flag (Widget.handleEvent e)
  | setFlags flags => told (fun _ => .done) (Widget.setFlags flags)
  | step dt => told .flag (Widget.step dt)
  | destroy => told (fun _ => .done) Widget.destroy

end Ask

/-- Two widgets of a kind with fonts of their own and nothing else to tell them apart. -/
inductive Widget.Twins (F : FontHandle → FontHandle → Prop) :
    Widget α (Client α κ) χ → Widget α (Client α κ) χ → Prop
  | tabs {row row' : TabRow α (Client α κ) χ} (h : TabRow.Twins Client.hearTab F row row') :
      Twins F (.tabs row) (.tabs row')
  | segmented {group group' : SegmentGroup α (Client α κ)}
      (h : SegmentGroup.Twins Client.hearSegment F group group') :
      Twins F (.segmented group) (.segmented group')
  | label {l l' : Label α} (h : Label.Twins F l l') : Twins F (.label l) (.label l')
  | badge {b b' : Badge α} (h : Badge.Twins F b b') : Twins F (.badge b) (.badge b')
  | tooltip {tip tip' : Tooltip α} (h : Tooltip.Twins F tip tip') :
      Twins F (.tooltip tip) (.tooltip tip')

section Isolated

variable {T : (FontHandle → FontHandle → Prop) → ω → ω → Prop}

theorem Step.isolated_bind {act : Step ω (Client α κ) β} {f : β → Step ω (Client α κ) γ}
    (h : Step.Isolated T act) (hr : ∀ b, Step.Rises (f b)) (hf : ∀ b, Step.Isolated T (f b)) :
    Step.Isolated T (act >>= f) where
  rises count := (h.rises count).bind fun b => (hf b).rises count
  grows start kept names := by
    refine (h.grows start kept names).bind hr ?_
    rintro more b _ - rfl
    exact (hf b).grows start kept more

theorem Step.isolated_pure (b : β) : Step.Isolated T (pure b : Step ω (Client α κ) β) where
  rises _ := .pure b
  grows _ _ _ := growsIn_pure rfl

theorem isolated_told {act : Step ω (Client α κ) β} (reply : β → Reply α)
    (h : Step.Isolated T act) : Step.Isolated T (told reply act) :=
  Step.isolated_bind h (fun _ _ => .pure _) fun _ => Step.isolated_pure _

theorem isolated_told_blind [Scalar α] [PaintHost α κ] [Channel α κ χ]
    {act : Step ω (Client α κ) β} (reply : β → Reply α)
    (h : ∀ F R, Concurs (Private χ) Client.hearTab Client.hearSegment F R →
      Step.Blind (T F) R act) : Step.Isolated T (told reply act) :=
  isolated_told reply (Step.isolated_of_blind h)

/-- A widget without channels does not care for their kind. -/
theorem isolated_told_plain [Scalar α] [PaintHost α κ] {act : Step ω (Client α κ) β}
    (reply : β → Reply α)
    (h : ∀ F R, Concurs (Private (Timing α)) Client.hearTab Client.hearSegment F R →
      Step.Blind (T F) R act) : Step.Isolated T (told reply act) :=
  isolated_told_blind reply h

/-- What is made of a thing is told from it as the thing is. -/
theorem Client.isolated_map {ω' : Type} {U : (FontHandle → FontHandle → Prop) → ω' → ω' → Prop}
    {wrap : ω → ω'} {act : HostM (Client α κ) ω}
    (hwrap : ∀ F w w', T F w w' → U F (wrap w) (wrap w')) (h : Client.Isolated T act) :
    Client.Isolated U (do return wrap (← act)) where
  rises count s hs := by
    refine (h.rises count s hs).bind (fun w s' hw => ⟨hw.1, fun w' hw' => ?_⟩) fun e s' he => ?_
    · obtain rfl := Except.ok.inj hw'
      exact hwrap Eq _ _ (hw.2 w rfl)
    · exact ⟨he.1, fun w hw => (error_ne_ok hw).elim⟩
  grows start kept names := by
    refine (h.grows start kept names).bind (fun _ _ => .pure _) ?_
    exact fun more w w' _ hw => growsIn_pure (hwrap _ _ _ hw)

section Wrap

variable {ω' : Type} {U : (FontHandle → FontHandle → Prop) → ω' → ω' → Prop} {wrap : ω → ω'}
  {act : Step ω (Client α κ) β} {outer : Step ω' (Client α κ) β}

/-- What runs inside another thing. -/
def RunsInside (wrap : ω → ω') (act : Step ω τ β) (outer : Step ω' τ β) : Prop :=
  ∀ w s post, Ends outer (wrap w, s) post ↔ Ends act (w, s) fun r p => post r (wrap p.1, p.2)

theorem RunsInside.agree {A : ω → ω → Prop} {B : ω' → ω' → Prop}
    {R : Client α κ → Client α κ → Prop} (hi : RunsInside wrap act outer)
    (hwrap : ∀ w w', A w w' → B (wrap w) (wrap w')) (h : Step.Blind A R act) {w w' : ω}
    {s t : Client α κ} (hw : A w w') (hs : R s t) :
    Ends outer (wrap w, s) fun r p => Ends outer (wrap w', t) fun r' q =>
      r = r' ∧ Both B R p q := by
  rw [hi]
  apply (h.ends (s := (w, s)) (t := (w', t)) ⟨hw, hs⟩).imp
  intro r p hends
  rw [hi]
  exact hends.imp fun _ _ hr => ⟨hr.1, hwrap _ _ hr.2.1, hr.2.2⟩

theorem RunsInside.rises (hi : RunsInside wrap act outer)
    (hwrap : ∀ F w w', T F w w' → U F (wrap w) (wrap w')) (h : Step.Isolated T act) {w : ω}
    {s : Client α κ} {count : Nat} (hw : T Eq w w) (hs : count ≤ s.foundry.made) :
    Ends outer (wrap w, s) fun _ p => U Eq p.1 p.1 ∧ count ≤ p.2.foundry.made := by
  rw [hi]
  exact (h.rises count (w, s) ⟨hw, hs⟩).imp fun _ p hp => ⟨hwrap Eq _ _ hp.1, hp.2⟩

theorem RunsInside.grows (hi : RunsInside wrap act outer)
    (hwrap : ∀ F w w', T F w w' → U F (wrap w) (wrap w')) (h : Step.Isolated T act)
    {start : Foundry α} {kept : UInt32 → Prop} {names : Names} {w w' : ω} {s t : Client α κ}
    (hw : T names.Link w w') (hs : Client.Parallel start kept names s t) :
    Ends outer (wrap w, s) fun r p => Ends outer (wrap w', t) fun r' q =>
      p.2.foundry.made < UInt32.size → ∃ more, names ⊆ more ∧ SameEnd Eq r r' ∧
        Both (U more.Link) (Client.Parallel start kept more) p q := by
  rw [hi]
  apply (h.grows start kept names (w, s) (w', t) ⟨hw, hs⟩).imp
  intro r p hends
  rw [hi]
  apply hends.imp
  intro r' q hgrown hlt
  obtain ⟨more, hsub, hsame, hw', hs'⟩ := hgrown hlt
  exact ⟨more, hsub, hsame, hwrap _ _ _ hw', hs'⟩

end Wrap

end Isolated

section Client

variable [Scalar α] [PaintHost α κ]

theorem TabRow.isolated_ask [Channel α κ χ] (op : TabOp α κ) :
    Step.Isolated (Twins Client.hearTab)
      (op.ask Client.hearTab :
        Step (TabRow α (Client α κ) (Private χ)) (Client α κ) (Reply α)) := by
  cases op with
  | setItems items => exact isolated_told_blind _ fun _ _ hc => blind_setItems hc items
  | setStyle style => exact isolated_told _ (isolated_setStyle style)
  | setSelected selected => exact isolated_told_blind _ fun _ _ hc => blind_setSelected hc selected
  | setScroll offset => exact isolated_told_blind _ fun _ _ hc => blind_setScroll hc offset
  | setOnSelect listener =>
    exact isolated_told_blind (χ := χ) _ fun _ _ _ =>
      blind_update fun _ _ like _ => .twin like ⟨listener, rfl⟩
  | setFlags flags =>
    exact isolated_told_blind (χ := χ) _ fun _ _ _ =>
      blind_update fun _ _ like heard => .twin like heard
  | setDisabled on =>
    exact isolated_told_blind (χ := χ) _ fun _ _ _ =>
      blind_update fun _ _ like heard => .twin like heard
  | step dt => exact isolated_told_blind _ fun _ _ hc => blind_step hc dt
  | measure width height =>
    exact isolated_told_blind _ fun _ _ hc => blind_measure hc width height
  | layout bounds => exact isolated_told_blind _ fun _ _ hc => blind_layout hc bounds
  | paint => exact isolated_told_blind _ fun _ _ hc => blind_paint hc
  | event e => exact isolated_told_blind _ fun _ _ hc => blind_handleEvent hc e
  | destroy => exact isolated_told_blind _ fun _ _ hc => blind_destroy hc

theorem SegmentGroup.isolated_ask (op : SegmentOp α κ) :
    Step.Isolated (Twins Client.hearSegment)
      (op.ask Client.hearSegment :
        Step (SegmentGroup α (Client α κ)) (Client α κ) (Reply α)) := by
  cases op with
  | setItems items =>
    exact isolated_told_plain _ fun _ _ _ => blind_setItems items
  | setItemsWithStates items flags =>
    exact isolated_told_plain _ fun _ _ _ => blind_setItemsWithStates items flags
  | setStyle style => exact isolated_told _ (isolated_setStyle style)
  | setSelectedIndex selected =>
    exact isolated_told_plain _ fun _ _ _ => blind_setSelectedIndex selected
  | setSelectedState index on =>
    exact isolated_told_plain _ fun _ _ _ => blind_setSelectedState index on
  | setOnSelect listener =>
    exact isolated_told_plain _ fun _ _ _ =>
      blind_update fun _ _ like _ => .twin like ⟨listener, rfl⟩
  | setFlags flags =>
    exact isolated_told_plain _ fun _ _ _ =>
      blind_update fun _ _ like heard => .twin like heard
  | setDisabled on =>
    exact isolated_told_plain _ fun _ _ _ =>
      blind_update fun _ _ like heard => .twin like heard
  | measure width height =>
    exact isolated_told_plain _ fun _ _ hc => blind_measure hc width height
  | layout bounds => exact isolated_told_plain _ fun _ _ _ => blind_layout bounds
  | paint => exact isolated_told_plain _ fun _ _ hc => blind_paint hc
  | event e => exact isolated_told_plain _ fun _ _ hc => blind_handleEvent hc e
  | destroy => exact isolated_told_plain _ fun _ _ hc => blind_destroy hc

theorem Label.isolated_ask (op : LabelOp α) :
    Step.Isolated Twins (op.ask : Step (Label α) (Client α κ) (Reply α)) := by
  cases op with
  | setText text =>
    exact isolated_told_plain _ fun _ _ _ =>
      blind_update fun _ _ like holds => .twin like holds
  | setStyle style => exact isolated_told _ (isolated_setStyle style)
  | metrics => exact isolated_told_plain _ fun _ _ hc => blind_metrics hc
  | setFlags flags =>
    exact isolated_told_plain _ fun _ _ _ =>
      blind_update fun _ _ like holds => .twin like holds
  | measure width height =>
    exact isolated_told_plain _ fun _ _ hc => blind_measure hc width height
  | layout bounds => exact isolated_told_plain _ fun _ _ _ => blind_layout bounds
  | paint => exact isolated_told_plain _ fun _ _ hc => blind_paint hc
  | event e => exact isolated_told _ (Step.isolated_pure false)
  | destroy => exact isolated_told_plain _ fun _ _ hc => blind_destroy hc

theorem Badge.isolated_ask (op : BadgeOp α) :
    Step.Isolated Twins (op.ask : Step (Badge α) (Client α κ) (Reply α)) := by
  cases op with
  | setLabel label => exact isolated_told _ (isolated_setLabel label)
  | setStyle style => exact isolated_told _ (isolated_setStyle style)
  | place anchor placement =>
    exact isolated_told_plain _ fun _ _ hc => blind_place hc anchor placement
  | setFlags flags =>
    exact isolated_told_plain _ fun _ _ _ =>
      blind_update fun _ _ like holds => .twin like holds
  | measure width height =>
    exact isolated_told_plain _ fun _ _ hc => blind_measure hc width height
  | layout bounds => exact isolated_told_plain _ fun _ _ _ => blind_layout bounds
  | paint => exact isolated_told_plain _ fun _ _ hc => blind_paint hc
  | event e => exact isolated_told _ (Step.isolated_pure false)
  | destroy => exact isolated_told_plain _ fun _ _ hc => blind_destroy hc

theorem Tooltip.isolated_ask (op : TooltipOp α) :
    Step.Isolated Twins (op.ask : Step (Tooltip α) (Client α κ) (Reply α)) := by
  cases op with
  | setTitle title =>
    exact isolated_told_plain _ fun _ _ _ =>
      blind_update fun _ _ _ title body => .twins title body
  | setBody body =>
    exact isolated_told_plain _ fun _ _ _ =>
      blind_update fun _ _ _ title body => .twins title body
  | setAnchor anchor placement =>
    exact isolated_told_plain _ fun _ _ _ => (Step.agree_check _).bind fun _ =>
      blind_update fun _ _ _ title body => .twins title body
  | setStyle style => exact isolated_told _ (isolated_setStyle style)
  | content => exact isolated_told_plain _ fun _ _ hc => blind_content hc
  | setFlags flags =>
    exact isolated_told_plain _ fun _ _ _ =>
      blind_update fun _ _ _ title body => .twins title body
  | measure width height =>
    exact isolated_told_plain _ fun _ _ hc => blind_measure hc width height
  | layout overlay =>
    exact isolated_told_plain _ fun _ _ hc => blind_layout hc overlay
  | paint => exact isolated_told_plain _ fun _ _ hc => blind_paint hc
  | event e => exact isolated_told _ (Step.isolated_pure false)
  | destroy => exact isolated_told_plain _ fun _ _ hc => blind_destroy hc

namespace Widget

section Dispatch

variable {onTabs : Step (TabRow α (Client α κ) χ) (Client α κ) β}
  {onSegmented : Step (SegmentGroup α (Client α κ)) (Client α κ) β}
  {onLabel : Step (Label α) (Client α κ) β} {onBadge : Step (Badge α) (Client α κ) β}
  {onTooltip : Step (Tooltip α) (Client α κ) β}

omit [Scalar α] [PaintHost α κ] in
theorem runsInside_tabs :
    RunsInside tabs onTabs (dispatch onTabs onSegmented onLabel onBadge onTooltip) :=
  fun _ _ _ => ends_dispatch_tabs

omit [Scalar α] [PaintHost α κ] in
theorem runsInside_segmented :
    RunsInside segmented onSegmented (dispatch onTabs onSegmented onLabel onBadge onTooltip) :=
  fun _ _ _ => ends_dispatch_segmented

omit [Scalar α] [PaintHost α κ] in
theorem runsInside_label :
    RunsInside label onLabel (dispatch onTabs onSegmented onLabel onBadge onTooltip) :=
  fun _ _ _ => ends_dispatch_label

omit [Scalar α] [PaintHost α κ] in
theorem runsInside_badge :
    RunsInside badge onBadge (dispatch onTabs onSegmented onLabel onBadge onTooltip) :=
  fun _ _ _ => ends_dispatch_badge

omit [Scalar α] [PaintHost α κ] in
theorem runsInside_tooltip :
    RunsInside tooltip onTooltip (dispatch onTabs onSegmented onLabel onBadge onTooltip) :=
  fun _ _ _ => ends_dispatch_tooltip

omit [Scalar α] [PaintHost α κ] in
theorem isolated_dispatch (htabs : Step.Isolated (TabRow.Twins Client.hearTab) onTabs)
    (hsegmented : Step.Isolated (SegmentGroup.Twins Client.hearSegment) onSegmented)
    (hlabel : Step.Isolated Label.Twins onLabel) (hbadge : Step.Isolated Badge.Twins onBadge)
    (htooltip : Step.Isolated Tooltip.Twins onTooltip) :
    Step.Isolated Twins (dispatch onTabs onSegmented onLabel onBadge onTooltip) where
  rises count := by
    rintro ⟨w, s⟩ ⟨hw, hs⟩
    cases hw with
    | tabs h => exact runsInside_tabs.rises (fun _ _ _ => .tabs) htabs h hs
    | segmented h => exact runsInside_segmented.rises (fun _ _ _ => .segmented) hsegmented h hs
    | label h => exact runsInside_label.rises (fun _ _ _ => .label) hlabel h hs
    | badge h => exact runsInside_badge.rises (fun _ _ _ => .badge) hbadge h hs
    | tooltip h => exact runsInside_tooltip.rises (fun _ _ _ => .tooltip) htooltip h hs
  grows start kept names := by
    rintro ⟨w, s⟩ ⟨w', t⟩ ⟨hw, hs⟩
    cases hw with
    | tabs h => exact runsInside_tabs.grows (fun _ _ _ => .tabs) htabs h hs
    | segmented h => exact runsInside_segmented.grows (fun _ _ _ => .segmented) hsegmented h hs
    | label h => exact runsInside_label.grows (fun _ _ _ => .label) hlabel h hs
    | badge h => exact runsInside_badge.grows (fun _ _ _ => .badge) hbadge h hs
    | tooltip h => exact runsInside_tooltip.grows (fun _ _ _ => .tooltip) htooltip h hs

omit [Scalar α] [PaintHost α κ] in
theorem blind_dispatch {F : FontHandle → FontHandle → Prop} {R : Client α κ → Client α κ → Prop}
    (htabs : Step.Blind (TabRow.Twins Client.hearTab F) R onTabs)
    (hsegmented : Step.Blind (SegmentGroup.Twins Client.hearSegment F) R onSegmented)
    (hlabel : Step.Blind (Label.Twins F) R onLabel) (hbadge : Step.Blind (Badge.Twins F) R onBadge)
    (htooltip : Step.Blind (Tooltip.Twins F) R onTooltip) :
    Step.Blind (Twins F) R (dispatch onTabs onSegmented onLabel onBadge onTooltip) := by
  refine agree_of_ends ?_
  rintro ⟨w, s⟩ ⟨w', t⟩ ⟨hw, hs⟩
  cases hw with
  | tabs h => exact runsInside_tabs.agree (fun _ _ => .tabs) htabs h hs
  | segmented h => exact runsInside_segmented.agree (fun _ _ => .segmented) hsegmented h hs
  | label h => exact runsInside_label.agree (fun _ _ => .label) hlabel h hs
  | badge h => exact runsInside_badge.agree (fun _ _ => .badge) hbadge h hs
  | tooltip h => exact runsInside_tooltip.agree (fun _ _ => .tooltip) htooltip h hs

end Dispatch

variable [Channel α κ χ]

theorem isolated_ask (op : WidgetOp α κ) :
    Step.Isolated Twins (op.ask Client.hearTab Client.hearSegment :
      Step (Widget α (Client α κ) (Private χ)) (Client α κ) (Reply α)) := by
  have hidle {ω : Type} {T : (FontHandle → FontHandle → Prop) → ω → ω → Prop} :
      Step.Isolated T (pure .done : Step ω (Client α κ) (Reply α)) := Step.isolated_pure _
  cases op with
  | tabs op => exact isolated_dispatch (TabRow.isolated_ask op) hidle hidle hidle hidle
  | segmented op => exact isolated_dispatch hidle (SegmentGroup.isolated_ask op) hidle hidle hidle
  | label op => exact isolated_dispatch hidle hidle (Label.isolated_ask op) hidle hidle
  | badge op => exact isolated_dispatch hidle hidle hidle (Badge.isolated_ask op) hidle
  | tooltip op => exact isolated_dispatch hidle hidle hidle hidle (Tooltip.isolated_ask op)

theorem isolated_drive (op : DriveOp α) :
    Step.Isolated Twins
      (op.ask : Step (Widget α (Client α κ) (Private χ)) (Client α κ) (Reply α)) := by
  cases op with
  | measure width height =>
    exact isolated_told_blind _ fun _ _ hc => blind_dispatch (TabRow.blind_measure hc width height)
      (SegmentGroup.blind_measure hc width height) (Label.blind_measure hc width height)
      (Badge.blind_measure hc width height) (Tooltip.blind_measure hc width height)
  | layout bounds =>
    exact isolated_told_blind _ fun _ _ hc => blind_dispatch (TabRow.blind_layout hc bounds)
      (SegmentGroup.blind_layout bounds) (Label.blind_layout bounds) (Badge.blind_layout bounds)
      (Tooltip.blind_layout hc bounds)
  | paint =>
    exact isolated_told_blind _ fun _ _ hc => blind_dispatch (TabRow.blind_paint hc)
      (SegmentGroup.blind_paint hc) (Label.blind_paint hc) (Badge.blind_paint hc)
      (Tooltip.blind_paint hc)
  | event e =>
    exact isolated_told_blind _ fun _ _ hc => blind_dispatch (TabRow.blind_handleEvent hc e)
      (SegmentGroup.blind_handleEvent hc e) (.pure _) (.pure _) (.pure _)
  | setFlags flags =>
    exact isolated_told_blind (χ := χ) _ fun _ _ _ => blind_dispatch
      (blind_update fun _ _ like heard => .twin like heard)
      (blind_update fun _ _ like heard => .twin like heard)
      (blind_update fun _ _ like holds => .twin like holds)
      (blind_update fun _ _ like holds => .twin like holds)
      (Tooltip.blind_update fun _ _ _ title body => .twins title body)
  | step dt =>
    exact isolated_told_blind _ fun _ _ hc =>
      blind_dispatch (TabRow.blind_step hc dt) (.pure _) (.pure _) (.pure _) (.pure _)
  | destroy =>
    exact isolated_told_blind _ fun _ _ hc => blind_dispatch (TabRow.blind_destroy hc)
      (SegmentGroup.blind_destroy hc) (Label.blind_destroy hc) (Badge.blind_destroy hc)
      (Tooltip.blind_destroy hc)

theorem isolated_drop :
    Step.Isolated Twins
      (drop : Step (Widget α (Client α κ) (Private χ)) (Client α κ) Unit) :=
  Step.isolated_of_blind fun _ _ hc => blind_dispatch (TabRow.blind_drop hc)
    (SegmentGroup.blind_drop hc) (Label.blind_drop hc) (Badge.blind_drop hc) (Tooltip.blind_drop hc)

theorem isolated_create (c : Creation α (Private χ)) :
    Client.Isolated Twins (c.run : HostM (Client α κ) (Widget α (Client α κ) (Private χ))) := by
  cases c with
  | tabs style items selected positionChannel widthChannel =>
    exact Client.isolated_map (fun _ _ _ => .tabs)
      (TabRow.isolated_create style items selected positionChannel widthChannel)
  | segmented style items selection =>
    exact Client.isolated_map (fun _ _ _ => .segmented)
      (SegmentGroup.isolated_create style items selection)
  | label style text =>
    exact Client.isolated_map (fun _ _ _ => .label) (Label.isolated_create style text)
  | badge style text? =>
    exact Client.isolated_map (fun _ _ _ => .badge) (Badge.isolated_create style text?)
  | tooltip style anchor placement body =>
    exact Client.isolated_map (fun _ _ _ => .tooltip)
      (Tooltip.isolated_create style anchor placement body)

end Widget

end Client

/-- What can be ordered of a place that holds one widget at most. -/
inductive Deed (α κ χ : Type) where
  | build (creation : Creation α (Private χ))
  | act (op : WidgetOp α κ)
  | drive (op : DriveOp α)
  | drop

/-- An empty place does nothing. -/
def occupied (act : Step ω τ (Reply α)) : Step (Option ω) τ (Reply α) :=
  ExceptT.mk fun (w?, s) =>
    match w? with
    | some w =>
      let (r, w, s) := act.run (w, s)
      (r, some w, s)
    | none => (.ok .done, none, s)

theorem isolated_occupied {T : (FontHandle → FontHandle → Prop) → ω → ω → Prop}
    {act : Step ω (Client α κ) (Reply α)} (h : Step.Isolated T act) :
    Step.Isolated (fun F => Option.Rel (T F)) (occupied act) where
  rises count := by
    rintro ⟨w?, s⟩ ⟨hw, hs⟩
    cases hw with
    | some hw =>
      have hinside : RunsInside some act (occupied act) := fun _ _ _ => Iff.rfl
      exact hinside.rises (U := fun F => Option.Rel (T F)) (fun _ _ _ => .some) h hw hs
    | none => exact ⟨.none, hs⟩
  grows start kept names := by
    rintro ⟨w?, s⟩ ⟨w'?, t⟩ ⟨hw, hs⟩
    cases hw with
    | some hw =>
      have hinside : RunsInside some act (occupied act) := fun _ _ _ => Iff.rfl
      exact hinside.grows (U := fun F => Option.Rel (T F)) (fun _ _ _ => .some) h hw hs
    | none => exact fun _ => ⟨names, List.Subset.refl _, .ok rfl, .none, hs⟩

theorem Widget.Twins.mono {F G : FontHandle → FontHandle → Prop}
    {w w' : Widget α (Client α κ) χ} (h : Twins F w w')
    (hF : ∀ handle handle', F handle handle' → G handle handle') : Twins G w w' := by
  cases h with
  | tabs h => exact .tabs (h.mono hF)
  | segmented h => exact .segmented (h.mono hF)
  | label h => exact .label (h.mono hF)
  | badge h => exact .badge (h.mono hF)
  | tooltip h => exact .tooltip (h.mono hF)

theorem widen_place (names more : Names) (w? w'? : Option (Widget α (Client α κ) χ))
    (hsub : names ⊆ more) (h : Option.Rel (Widget.Twins names.Link) w? w'?) :
    Option.Rel (Widget.Twins more.Link) w? w'? := by
  cases h with
  | some h => exact .some (h.mono fun _ _ hl => hl.mono hsub)
  | none => exact .none

section Place

variable [Scalar α] [PaintHost α κ] [Channel α κ χ]

/-- A place that is taken builds nothing. -/
def Deed.ask : Deed α κ χ →
    Step (Option (Widget α (Client α κ) (Private χ))) (Client α κ) (Reply α)
  | build creation => do
    match ← Step.self with
    | some _ => return .done
    | none =>
      let w ← Step.host creation.run
      Step.update fun _ => some w
      return .done
  | act op => occupied (op.ask Client.hearTab Client.hearSegment)
  | drive op => occupied op.ask
  | drop => do
    let reply ← occupied (told (fun _ => .done) Widget.drop)
    Step.update fun _ => none
    return reply

theorem isolated_build (c : Creation α (Private χ)) :
    Step.Isolated (fun F => Option.Rel (Widget.Twins F)) (Deed.build c : Deed α κ χ).ask where
  rises count := by
    refine Step.keeps_self_bind fun w? s hw => ?_
    cases w? with
    | some w => exact .pure _
    | none =>
      rintro p ⟨hp, hs⟩
      rw [ends_bind, Step.ends_host]
      apply ((Widget.isolated_create c).rises count p.2 hs).imp
      rintro (e | w) s' ⟨hs', hw'⟩
      · exact ⟨hp, hs'⟩
      · exact ⟨.some (hw' w rfl), hs'⟩
  grows start kept names := by
    refine Step.grows_self_bind ?_
    rintro w? w'? hw
    cases hw with
    | some _ => exact growsIn_pure rfl
    | none =>
      refine (Step.grows_host widen_place ((Widget.isolated_create c).grows start kept names)).bind
        (fun w count => ?_) fun more w w' _ hw => growsIn_of_agree ?_
      · exact Keeps.bind (Step.keeps_update fun _ _ h => h) fun _ => .pure _
      · exact Accord.bind (Step.agree_update fun _ _ _ => .some hw) fun _ => .pure _

theorem Deed.isolated_ask (deed : Deed α κ χ) :
    Step.Isolated (fun F => Option.Rel (Widget.Twins F)) deed.ask := by
  cases deed with
  | build creation => exact isolated_build creation
  | act op => exact isolated_occupied (Widget.isolated_ask op)
  | drive op => exact isolated_occupied (Widget.isolated_drive op)
  | drop =>
    refine Step.isolated_bind (isolated_occupied (isolated_told _ Widget.isolated_drop)) ?_ ?_
    · exact fun reply count => Keeps.bind (Step.keeps_update fun _ _ h => h) fun _ => .pure reply
    · refine fun reply => Step.isolated_of_blind (χ := χ) fun _ _ _ => ?_
      exact Accord.bind (Step.agree_update fun _ _ _ => .none) fun _ => .pure reply

end Place

end Widgetry
