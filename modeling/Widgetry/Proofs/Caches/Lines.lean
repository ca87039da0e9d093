import Widgetry.Proofs.Caches.Cached

/-! What a tooltip remembers of measured text: the metrics of the lines that it shows, each in the
font that it holds for it. A new style is taken with its fonts before the old fonts are released,
and what was remembered is forgotten whatever comes of that. -/
namespace Widgetry.Tooltip

variable {α τ : Type} {metrics : FontHandle → String → TextMetrics α}

/-- The title, where the variant has one. -/
def shownTitle (tip : Tooltip α) : String :=
  match tip.style.variant, tip.title with
  | .rich, some title => title
  | _, _ => ""

theorem rich_of_shownTitle {tip : Tooltip α} (h : tip.shownTitle ≠ "") :
    tip.style.variant = .rich := by
  unfold shownTitle at h
  split at h
  next hrich _ => exact hrich
  next => exact (h rfl).elim

/-- What is measured for a line: nothing if it is empty, and else what it measures in the held
font. -/
inductive Line (metrics : FontHandle → String → TextMetrics α) (font : OwnedFont) (text : String) :
    Option (TextMetrics α) → Prop
  | blank (h : text = "") : Line metrics font text none
  | shown {handle : FontHandle} (h : text ≠ "") (held : font.handle? = some handle) :
      Line metrics font text (some (metrics handle text))

/-- The metrics of the lines that the tooltip shows. -/
structure Measured (metrics : FontHandle → String → TextMetrics α) (tip : Tooltip α)
    (content : TooltipContent α) : Prop where
  title : Line metrics tip.titleFont tip.shownTitle content.title
  body : Line metrics tip.bodyFont tip.body content.body

/-- The metrics in store are those of the lines that are shown. -/
def Cached (metrics : FontHandle → String → TextMetrics α) (tip : Tooltip α) : Prop :=
  ∀ content, tip.content? = some content → tip.Measured metrics content

/-- The metrics in store are as `Q` says. -/
def Stores (Q : Tooltip α → TooltipContent α → Prop) (tip : Tooltip α) : Prop :=
  ∀ content, tip.content? = some content → Q tip content

theorem stores_of_none {Q : Tooltip α → TooltipContent α → Prop} {tip : Tooltip α}
    (h : tip.content? = none) : tip.Stores Q := by
  intro content hcontent
  exact nomatch h.symm.trans hcontent

/-- `Q` looks at the lines and their fonts, and not at the place of the tooltip. -/
def OfLines (Q : Tooltip α → TooltipContent α → Prop) : Prop :=
  ∀ tip content anchor placement bounds direction flags, Q tip content →
    Q { tip with anchor, placement, bounds, direction, flags } content

variable [TextHost α τ]
  (hm : ∀ font, Answers (TextHost.measureText font : Measurer α τ) (metrics font))

/-- Measures a line that is shown. -/
def measureLine (font : OwnedFont) (text : String) : HostM τ (Option (TextMetrics α)) :=
  if text.isEmpty then pure none
  else do
    let font ← liftExcept font.handle
    return some (← TextHost.measureText font text)

theorem measureTitle_eq (tip : Tooltip α) :
    (tip.measureTitle : HostM τ _) = measureLine tip.titleFont tip.shownTitle := by
  unfold measureTitle shownTitle
  cases tip.style.variant with
  | plain => rfl
  | rich =>
    cases tip.title with
    | none => rfl
    | some title => rfl

include hm in
theorem ends_measureLine (font : OwnedFont) (text : String) {h : τ} :
    Ends (measureLine font text) h fun r _ =>
      match r with
      | .ok line => Line metrics font text line
      | .error e => text ≠ "" ∧ ∀ handle, font.handle? = some handle →
          Ends (TextHost.measureText handle text) h fun r' _ => r' = .error e := by
  unfold measureLine
  split
  next hblank => exact .blank (String.isEmpty_iff.mp hblank)
  next hblank =>
    have htext : text ≠ "" := fun heq => hblank (String.isEmpty_iff.mpr heq)
    refine .of_check (fun handle hhandle => ?_) fun e he => ⟨htext, fun handle hheld => ?_⟩
    · have hheld := OwnedFont.handle_eq_ok.mp hhandle
      rw [ends_bind]
      apply ((ends_run _ h).and ((hm handle).ends text)).imp
      rintro (e | m) h' ⟨hrun, hanswer⟩
      · refine ⟨htext, fun handle' hheld' => ?_⟩
        obtain rfl := Option.some.inj (hheld.symm.trans hheld')
        rw [ends_of_run hrun]
      · obtain rfl := hanswer m rfl
        exact .shown htext hheld
    · exact (error_ne_ok (he.symm.trans (OwnedFont.handle_eq_ok.mpr hheld))).elim

/-- It holds the fonts of its variant. -/
structure Holds (tip : Tooltip α) : Prop where
  body : tip.bodyFont.isLive
  title : tip.style.variant = .rich → tip.titleFont.isLive

/-- The host, asked for the body first, refuses to measure one of the lines in the font held for
it. -/
inductive Refused (tip : Tooltip α) (h : τ) (e : Error) : Prop
  | body {font : FontHandle} (held : tip.bodyFont.handle? = some font) (shown : tip.body ≠ "")
      (refused : Ends (TextHost.measureText font tip.body) h fun r _ => r = .error e)
  | title {font : FontHandle} {line : Option (TextMetrics α)} {h' : τ}
      (held : tip.titleFont.handle? = some font) (shown : tip.shownTitle ≠ "")
      (measured : (measureLine tip.bodyFont tip.body).run h = (.ok line, h'))
      (refused : Ends (TextHost.measureText font tip.shownTitle) h' fun r _ => r = .error e)

include hm in
/-- What is in store is answered, and what is not is measured line by line. -/
theorem ends_content_cached {tip : Tooltip α} (htip : tip.Cached metrics) {h : τ} :
    Ends content (tip, h) fun r p => p.1.Cached metrics ∧
      match r with
      | .ok content => tip.Measured metrics content
      | .error e => tip.Holds → tip.Refused h e := by
  rw [content, ends_bind, Step.ends_self]
  dsimp only
  split
  next content hstored => exact ⟨htip, htip content hstored⟩
  next hnone =>
    rw [ends_bind, Step.ends_host]
    apply ((ends_run _ h).and (ends_measureLine hm tip.bodyFont tip.body)).imp
    rintro (e | body) h₁ ⟨hrun, hbody⟩
    · refine ⟨htip, fun hholds => ?_⟩
      obtain ⟨font, hfont⟩ := Option.isSome_iff_exists.mp hholds.body
      exact .body hfont hbody.1 (hbody.2 font hfont)
    dsimp only
    rw [ends_bind, Step.ends_host, measureTitle_eq]
    apply (ends_measureLine hm tip.titleFont tip.shownTitle).imp
    rintro (e | title) h₂ htitle
    · refine ⟨htip, fun hholds => ?_⟩
      obtain ⟨font, hfont⟩ :=
        Option.isSome_iff_exists.mp (hholds.title (rich_of_shownTitle htitle.1))
      exact .title hfont htitle.1 hrun (htitle.2 font hfont)
    · refine ⟨fun content hcontent => ?_, htitle, hbody⟩
      obtain rfl := Option.some.inj hcontent
      exact ⟨htitle, hbody⟩

include hm in
theorem keeps_content_cached :
    Keeps (fun p => p.1.Cached metrics) (content : Step (Tooltip α) τ (TooltipContent α)) :=
  fun _ htip => (ends_content_cached hm htip).imp fun _ _ h => h.1

/-- Releasing the fonts always gives an outcome to go on with. -/
theorem ends_releaseFonts_ok {tip : Tooltip α} {h : τ} :
    Ends (releaseFonts : Step (Tooltip α) τ (Except Error Unit)) (tip, h) fun r _ =>
      ∃ released, r = .ok released := by
  rw [releaseFonts, ends_bind, ends_outcome]
  apply (ends_run _ _).imp
  rintro title p -
  dsimp only
  rw [ends_bind, ends_outcome]
  exact (ends_run _ _).imp fun body _ _ => ⟨both title body, rfl⟩

section Stored

variable {Q : Tooltip α → TooltipContent α → Prop}

/-- What follows on a release of the fonts and forgets the metrics. -/
theorem ends_released_stores {f : Tooltip α → Tooltip α} (hf : ∀ tip, (f tip).content? = none)
    {tip : Tooltip α} {h : τ} :
    Ends (do
      let released ← releaseFonts
      Step.update f
      Step.check released : Step (Tooltip α) τ Unit) (tip, h) fun _ p => p.1.Stores Q := by
  rw [ends_bind]
  apply ends_releaseFonts_ok.imp
  rintro _ p ⟨released, rfl⟩
  dsimp only
  rw [ends_bind, Step.ends_update, Step.ends_check]
  exact stores_of_none (hf p.1)

omit [TextHost α τ] in
/-- What moves or marks the tooltip keeps what is in store. -/
theorem keeps_move_stores (hQ : OfLines Q) {f : Tooltip α → Tooltip α}
    (hf : ∀ tip, ∃ anchor placement bounds direction flags,
      f tip = { tip with anchor, placement, bounds, direction, flags }) :
    Keeps (fun p => p.1.Stores Q) (Step.update f : Step (Tooltip α) τ Unit) := by
  refine Step.keeps_update fun tip _ htip => ?_
  obtain ⟨anchor, placement, bounds, direction, flags, heq⟩ := hf tip
  rw [heq]
  exact fun content hcontent => hQ tip content anchor placement bounds direction flags
    (htip content hcontent)

variable [Scalar α]

theorem keeps_setStyle_stores (style : TooltipStyle α) :
    Keeps (fun p => p.1.Stores Q) (setStyle style : Step (Tooltip α) τ Unit) := by
  refine (Step.keeps_check _).bind fun _ => (Step.keeps_thing _).bind fun fonts => ?_
  exact fun _ _ => ends_released_stores fun _ => rfl

/-- What is measured as `Q` says stays in store as `Q` says. -/
theorem keeps_run_stores [PaintHost α τ] (hQ : OfLines Q)
    (hcontent : Keeps (fun p => p.1.Stores Q)
      (content : Step (Tooltip α) τ (TooltipContent α))) (op : TooltipOp α) :
    Keeps (fun p => p.1.Stores Q) (op.run : Step (Tooltip α) τ Unit) := by
  cases op with
  | setTitle title => exact Step.keeps_update fun _ _ _ => stores_of_none rfl
  | setBody body => exact Step.keeps_update fun _ _ _ => stores_of_none rfl
  | setAnchor anchor placement =>
    exact (Step.keeps_check _).bind fun _ => keeps_move_stores hQ fun _ => ⟨_, _, _, _, _, rfl⟩
  | setStyle style => exact keeps_setStyle_stores style
  | content => exact keeps_ignore hcontent
  | setFlags flags => exact keeps_move_stores hQ fun _ => ⟨_, _, _, _, _, rfl⟩
  | measure width height =>
    refine keeps_ignore ((Step.keeps_check _).bind fun _ => (Step.keeps_check _).bind fun _ => ?_)
    refine hcontent.bind fun content => Step.keeps_self_bind fun tip _ _ => ?_
    exact (Step.keeps_check _).bind fun _ => .pure _
  | layout overlay =>
    refine (Step.keeps_check _).bind fun _ => hcontent.bind fun content => ?_
    refine Step.keeps_self_bind fun tip _ _ => (Step.keeps_check _).bind fun size => ?_
    exact (Step.keeps_check _).bind fun _ => keeps_move_stores hQ fun _ => ⟨_, _, _, _, _, rfl⟩
  | paint =>
    refine Step.keeps_self_bind fun tip _ _ => .ite (fun _ => .pure _) fun _ => ?_
    refine hcontent.bind fun content => Step.keeps_self_bind fun tip _ _ => ?_
    refine (Step.keeps_thing _).bind fun _ => (Step.keeps_thing _).bind fun y => ?_
    cases content.body with
    | none => exact .pure _
    | some m => exact Step.keeps_thing _
  | event e => exact keeps_ignore (.pure _)
  | destroy => exact fun _ _ => ends_released_stores fun _ => rfl

theorem ends_create_stores (style : TooltipStyle α) (anchor : TooltipAnchor α)
    (placement : TooltipPlacement) (body : String) {h : τ} :
    Ends (create style anchor placement body : HostM τ (Tooltip α)) h fun r _ => ∀ tip,
      r = .ok tip → tip.Stores Q := by
  refine .of_check (fun _ _ => ?_) fun _ _ _ hr => nomatch hr
  refine .of_check (fun _ _ => ?_) fun _ _ _ hr => nomatch hr
  refine (ends_run _ h).bind ?_ fun _ _ _ _ hr => nomatch hr
  rintro fonts h' - _ ⟨⟩
  exact stores_of_none rfl

end Stored

include hm in
theorem keeps_run_cached [Scalar α] [PaintHost α τ] (op : TooltipOp α) :
    Keeps (fun p => p.1.Cached metrics) (op.run : Step (Tooltip α) τ Unit) :=
  keeps_run_stores (fun _ _ _ _ _ _ _ h => ⟨h.title, h.body⟩) (keeps_content_cached hm) op

theorem ends_create_cached [Scalar α] (style : TooltipStyle α) (anchor : TooltipAnchor α)
    (placement : TooltipPlacement) (body : String) {h : τ} :
    Ends (create style anchor placement body : HostM τ (Tooltip α)) h fun r _ => ∀ tip,
      r = .ok tip → tip.Cached metrics := ends_create_stores style anchor placement body

end Widgetry.Tooltip
