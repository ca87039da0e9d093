import Widgetry.Proofs.Sharing.Growth

/-! The operations that make fonts, and the making of widgets: one widget on a shared backend, the
same one on a backend of its own. -/
namespace Widgetry

variable {α κ χ ω : Type} {start : Foundry α} {kept : UInt32 → Prop} {names : Names} {count : Nat}

theorem Twin.widen {part : ω → OwnedFont} {put : OwnedFont → ω → ω} {P : ω → Prop}
    (names more : Names) (w w' : ω) (hsub : names ⊆ more) (h : Twin part put P names.Link w w') :
    Twin part put P more.Link w w' := h.mono fun _ _ hl => hl.mono hsub

section Fonts

variable [Scalar α]

theorem agree_destroyFont {font font' : FontHandle} (hl : names.Link font font') :
    Agree (Client.Parallel start kept names) (TextHost.destroyFont font : HostM (Client α κ) Unit)
      (TextHost.destroyFont font') := Client.agree_onFoundry (Shares.agree_destroyFont hl)

theorem agree_measureText {font font' : FontHandle} (hl : names.Link font font') (text : String) :
    Agree (Client.Parallel start kept names)
      (TextHost.measureText font text : HostM (Client α κ) (TextMetrics α))
      (TextHost.measureText font' text) := Client.agree_onFoundry (Shares.agree_measureText hl text)

theorem rises_destroyFont (font : FontHandle) :
    Keeps (fun s : Client α κ => count ≤ s.foundry.made) (TextHost.destroyFont font) :=
  fun _ h => h

theorem rises_createFont (style : TextStyle α) :
    Client.Rises (TextHost.createFont style : HostM (Client α κ) FontHandle) := by
  intro count s hs
  rw [Client.ends_createFont]
  cases style.validate false with
  | error e => exact hs
  | ok _ => exact Nat.le_succ_of_le hs

/-- The new font is the next one in each backend. -/
theorem grows_createFont (style : TextStyle α) :
    Client.Grows start kept Names.Link names
      (TextHost.createFont style : HostM (Client α κ) FontHandle) (TextHost.createFont style) := by
  rintro s t ⟨⟨hm, hb⟩, hdesk⟩
  rw [Client.ends_createFont]
  cases hv : style.validate false with
  | error e =>
    refine Client.ends_createFont.mpr ?_
    rw [hv]
    exact fun _ => ⟨names, List.Subset.refl _, .error e, ⟨hm, hb⟩, hdesk⟩
  | ok _ =>
    refine Client.ends_createFont.mpr ?_
    rw [hv]
    intro hlt
    have hsub : names ⊆ (s.foundry.nextId, t.foundry.nextId) :: names := List.subset_cons_self _ _
    refine ⟨_, hsub, .ok ⟨List.mem_cons_self, rfl⟩, ⟨hm.cast hlt _, ?_⟩, hdesk.mono hsub⟩
    exact hb.cast hm.counted.1 hlt _

namespace OwnedFont

theorem rises_create (style : TextStyle α) :
    Client.Rises (create style : HostM (Client α κ) OwnedFont) :=
  fun count => host_keeps_create (rises_createFont style count)

theorem grows_create (style : TextStyle α) :
    Client.Grows start kept (fun names => Like names.Link) names
      (create style : HostM (Client α κ) OwnedFont) (create style) :=
  (grows_createFont style).bind (fun _ _ => .pure _) fun _ _ _ _ hl => growsIn_pure (.held hl)

section Part

variable {part : ω → OwnedFont} {put : OwnedFont → ω → ω} {f : ω → ω}

theorem keeps_made_replaceIn (next : OwnedFont) :
    Keeps (fun p => count ≤ p.2.foundry.made)
      (Step.zoom part put (replace next) : Step ω (Client α κ) Unit) :=
  fun p hp => host_keeps_replace rises_destroyFont next (part p.1, p.2) hp

/-- A thing takes over a new font, and with it a new style. -/
def restyle (part : ω → OwnedFont) (put : OwnedFont → ω → ω) (f : ω → ω) (style : TextStyle α) :
    Step ω (Client α κ) Unit := do
  let font ← Step.host (create style)
  Step.zoom part put (replace font)
  Step.update f

theorem keeps_made_rest (next : OwnedFont) :
    Keeps (fun p => count ≤ p.2.foundry.made) (do
      Step.zoom part put (replace next)
      Step.update f : Step ω (Client α κ) Unit) :=
  (keeps_made_replaceIn next).bind fun _ => Step.keeps_update fun _ _ h => h

theorem isolated_restyle {P : ω → Prop} (he : Exchanges part put P) (style : TextStyle α)
    (hf : ∀ F w font, (part w).Like F font → P w → Twin part put P F (f w) (f (put font w))) :
    Step.Isolated (Twin part put P) (restyle part put f style : Step ω (Client α κ) Unit) where
  rises count := by
    refine Keeps.bind (Step.keeps_host fun w s hs => ?_) fun font => Keeps.bind ?_ fun _ => ?_
    · exact (rises_create style count s hs.2).imp fun _ _ hs' => ⟨hs.1, hs'⟩
    · intro p hp
      rw [Step.ends_zoom]
      apply (host_keeps_replace rises_destroyFont font (part p.1, p.2) hp.2).imp
      exact fun _ q hq => ⟨he.twin (.refl q.1) hp.1, hq⟩
    · exact Step.keeps_update fun w _ h => ⟨h.1.map (hf Eq), h.2⟩
  grows start kept names := by
    refine (Step.grows_host Twin.widen (grows_create style)).bind
      (fun font _ => keeps_made_rest font) fun more font font' hsub like => growsIn_of_agree ?_
    refine Accord.bind (he.agree_zoom ?_) fun _ => blind_update (hf more.Link)
    exact like.agree_replace fun _ _ hl => agree_destroyFont hl

end Part

end OwnedFont

namespace Label

omit [Scalar α] in
theorem twins_refl (l : Label α) : Twins Eq l l := .twin (.refl l.font) trivial

theorem isolated_setStyle (style : TextStyle α) :
    Step.Isolated Twins (setStyle style : Step (Label α) (Client α κ) Unit) := by
  refine Step.isolated_check_bind fun _ => OwnedFont.isolated_restyle exchanges style ?_
  exact fun _ _ _ like holds => .twin like holds

theorem isolated_create (style : TextStyle α) (text : String) :
    Client.Isolated Twins (create style text : HostM (Client α κ) (Label α)) := by
  refine Client.isolated_of_rises twins_refl (fun count => ?_) fun start kept names => ?_
  · refine (Keeps.liftExcept _).bind fun _ => ?_
    exact (OwnedFont.rises_create style count).bind fun _ => .pure _
  · refine growsIn_check_bind fun _ => (OwnedFont.grows_create style).bind (fun _ _ => .pure _) ?_
    exact fun more font font' _ like => growsIn_pure (.twin like trivial)

end Label

namespace SegmentGroup

theorem isolated_setStyle (style : SegmentStyle α) :
    Step.Isolated (Twins Client.hearSegment)
      (setStyle style : Step (SegmentGroup α (Client α κ)) (Client α κ) Unit) := by
  refine Step.isolated_check_bind fun _ => OwnedFont.isolated_restyle exchanges style.text ?_
  exact fun _ _ _ like heard => .twin like heard

theorem isolated_create (style : SegmentStyle α) (items : List String) (selection : Selection) :
    Client.Isolated (Twins Client.hearSegment)
      (create style items selection : HostM (Client α κ) (SegmentGroup α (Client α κ))) where
  rises count s hs := by
    refine .of_check (fun _ _ => .of_check (fun _ _ => ?_) ?_) ?_
    · refine Ends.bind (OwnedFont.rises_create style.text count s hs) (fun font s' hs' => ?_) ?_
      · refine ⟨hs', fun group hgroup => ?_⟩
        obtain rfl := Except.ok.inj hgroup
        exact .twin (.refl font) ⟨none, rfl⟩
      · exact fun e s' hs' => ⟨hs', fun group hgroup => (error_ne_ok hgroup).elim⟩
    · exact fun e _ => ⟨hs, fun group hgroup => (error_ne_ok hgroup).elim⟩
    · exact fun e _ => ⟨hs, fun group hgroup => (error_ne_ok hgroup).elim⟩
  grows start kept names := by
    refine growsIn_check_bind fun _ => growsIn_check_bind fun _ => ?_
    refine (OwnedFont.grows_create style.text).bind (fun _ _ => .pure _) ?_
    exact fun more font font' _ like => growsIn_pure (.twin like ⟨none, rfl⟩)

end SegmentGroup

namespace Badge

theorem rises_loadFont (style : BadgeStyle α) :
    Client.Rises (loadFont style : HostM (Client α κ) (OwnedFont × TextMetrics α)) := by
  intro count
  refine (rises_createFont style.text count).bind fun font => Keeps.tryCatch ?_ fun e => ?_
  · exact Keeps.bind (fun _ h => h) fun _ => .pure _
  · exact (OwnedFont.host_keeps_discard rises_destroyFont _).bind fun _ => .throw e

/-- Related fonts and equal lines. -/
def Loaded (names : Names) (p q : OwnedFont × TextMetrics α) : Prop :=
  p.1.Like names.Link q.1 ∧ p.2 = q.2

theorem grows_loadFont (style : BadgeStyle α) :
    Client.Grows start kept Loaded names
      (loadFont style : HostM (Client α κ) (OwnedFont × TextMetrics α)) (loadFont style) := by
  have hdiscard (font : FontHandle) (e : Error) : Client.Rises (do
      (OwnedFont.adopt font).discard
      throw e : HostM (Client α κ) (OwnedFont × TextMetrics α)) := fun count =>
    (OwnedFont.host_keeps_discard rises_destroyFont _).bind fun _ => .throw e
  refine (grows_createFont style.text).bind (fun font count => Keeps.tryCatch ?_ fun e => ?_)
    fun more font font' _ hl => GrowsIn.tryCatch ?_ (fun e => hdiscard font e) fun last e hsub => ?_
  · exact Keeps.bind (fun _ h => h) fun _ => .pure _
  · exact hdiscard font e count
  · refine (growsIn_of_agree (agree_measureText hl "")).bind (fun _ _ => .pure _) ?_
    rintro last m _ hsub rfl
    exact growsIn_pure ⟨.held (hl.mono hsub), rfl⟩
  · have hlike : (OwnedFont.adopt font).Like last.Link (.adopt font') := .held (hl.mono hsub)
    refine (growsIn_of_agree (hlike.agree_discard fun _ _ hl => agree_destroyFont hl)).bind
      (fun _ _ => .throw e) fun _ _ _ _ _ => growsIn_throw e

omit [Scalar α] in
theorem twins_refl (b : Badge α) : Twins Eq b b := .twin (.refl b.font) trivial

omit [Scalar α] in
theorem keeps_made_update (f : Badge α → Badge α) :
    Keeps (fun p => count ≤ p.2.foundry.made)
      (Step.update f : Step (Badge α) (Client α κ) Unit) := Step.keeps_update fun _ _ h => h

theorem keeps_made_adopt (style : BadgeStyle α) (loaded : OwnedFont × TextMetrics α) :
    Keeps (fun p => count ≤ p.2.foundry.made) (do
      onFont (OwnedFont.replace loaded.1)
      Step.update fun b => { b with line := loaded.2 }
      Step.update fun b => { b with style } : Step (Badge α) (Client α κ) Unit) :=
  (OwnedFont.keeps_made_replaceIn loaded.1).bind fun _ =>
    (keeps_made_update _).bind fun _ => keeps_made_update _

theorem isolated_setStyle (style : BadgeStyle α) :
    Step.Isolated Twins (setStyle style : Step (Badge α) (Client α κ) Unit) := by
  refine Step.isolated_check_bind fun _ => Step.isolated_of_rises twins_refl (fun count => ?_)
    fun start kept names => Step.grows_self_bind ?_
  · refine Step.keeps_self_bind fun b _ _ => .ite (fun _ => ?_) fun _ => keeps_made_update _
    exact Keeps.bind (rises_host (rises_loadFont style) count) (keeps_made_adopt style)
  · rintro b _ ⟨like, -⟩
    dsimp only
    rw [like.isLive]
    split
    · refine (Step.grows_host Twin.widen (grows_loadFont style)).bind
        (fun loaded _ => keeps_made_adopt style loaded) ?_
      rintro more ⟨font, line⟩ ⟨font', _⟩ hsub ⟨hlike, rfl⟩
      refine growsIn_of_agree (Accord.bind (exchanges.agree_zoom ?_) fun _ => ?_)
      · exact hlike.agree_replace fun _ _ hl => agree_destroyFont hl
      · refine Accord.bind (blind_update fun _ _ like holds => .twin like holds) fun _ => ?_
        exact blind_update fun _ _ like holds => .twin like holds
    · exact growsIn_of_agree (blind_update fun _ _ like holds => .twin like holds)

theorem rises_setLabel (label : Option String) :
    Step.Rises (setLabel label : Step (Badge α) (Client α κ) Unit) := by
  intro count
  refine Step.keeps_self_bind fun b _ _ => .ite (fun _ => ?_) fun _ => keeps_made_update _
  refine Step.keeps_self_bind fun b _ _ => ?_
  refine Keeps.bind (rises_host (rises_loadFont b.style) count) fun ⟨font, line⟩ => ?_
  exact (keeps_made_update _).bind fun _ => keeps_made_update _

theorem grows_setLabel (label : Option String) :
    Step.Grows start kept (fun names => Twins names.Link) (fun _ => Eq) names
      (setLabel label : Step (Badge α) (Client α κ) Unit) (setLabel label) := by
  refine Step.grows_self_bind ?_
  rintro b _ ⟨like, -⟩
  dsimp only
  rw [like.isLive]
  split
  · refine Step.grows_self_bind ?_
    rintro b _ ⟨like, -⟩
    refine (Step.grows_host Twin.widen (grows_loadFont b.style)).bind
      (fun _ _ => (keeps_made_update _).bind fun _ => keeps_made_update _) ?_
    rintro more ⟨font, line⟩ ⟨font', _⟩ hsub ⟨hlike, rfl⟩
    refine growsIn_of_agree (Accord.bind (Step.agree_update ?_) fun _ => ?_)
    · rintro b _ ⟨-⟩
      have htwin : Twins more.Link { b with font, line } { b with font := font', line } :=
        .twin hlike trivial
      exact htwin
    · exact blind_update fun _ _ like holds => .twin like holds
  · exact growsIn_of_agree (blind_update fun _ _ like holds => .twin like holds)

theorem isolated_setLabel (label : Option String) :
    Step.Isolated Twins (setLabel label : Step (Badge α) (Client α κ) Unit) :=
  Step.isolated_of_rises twins_refl (rises_setLabel label) fun _ _ _ => grows_setLabel label

theorem isolated_create (style : BadgeStyle α) (label : Option String) :
    Client.Isolated Twins (create style label : HostM (Client α κ) (Badge α)) := by
  refine Client.isolated_of_rises twins_refl (fun count => ?_) fun start kept names => ?_
  · exact (Keeps.liftExcept _).bind fun _ => fun s hs => rises_setLabel label count (_, s) hs
  · exact growsIn_check_bind fun _ => grows_construct (.twin .empty trivial) (grows_setLabel label)

end Badge

namespace Tooltip

omit [Scalar α] in
theorem twins_refl (tip : Tooltip α) : Twins Eq tip tip :=
  .twins (.refl tip.titleFont) (.refl tip.bodyFont)

omit [Scalar α] in
theorem widen (names more : Names) (tip tip' : Tooltip α) (hsub : names ⊆ more)
    (h : Twins names.Link tip tip') : Twins more.Link tip tip' := h.mono fun _ _ hl => hl.mono hsub

theorem rises_createFonts (style : TooltipStyle α) :
    Client.Rises (createFonts style : HostM (Client α κ) (OwnedFont × OwnedFont)) := by
  intro count
  unfold createFonts
  split
  · exact (OwnedFont.rises_create style.text count).bind fun _ => .pure _
  · refine (OwnedFont.rises_create style.title count).bind fun title =>
      Keeps.tryCatch ?_ fun e => ?_
    · exact (OwnedFont.rises_create style.body count).bind fun _ => .pure _
    · exact (OwnedFont.host_keeps_discard rises_destroyFont title).bind fun _ => .throw e

/-- Related fonts for title and body. -/
def Loaded (names : Names) (p q : OwnedFont × OwnedFont) : Prop :=
  p.1.Like names.Link q.1 ∧ p.2.Like names.Link q.2

theorem grows_createFonts (style : TooltipStyle α) :
    Client.Grows start kept Loaded names
      (createFonts style : HostM (Client α κ) (OwnedFont × OwnedFont)) (createFonts style) := by
  have hdiscard (title : OwnedFont) (e : Error) : Client.Rises (do
      title.discard
      throw e : HostM (Client α κ) (OwnedFont × OwnedFont)) := fun count =>
    (OwnedFont.host_keeps_discard rises_destroyFont title).bind fun _ => .throw e
  unfold createFonts
  split
  · refine (OwnedFont.grows_create style.text).bind (fun _ _ => .pure _) ?_
    exact fun more font font' _ like => growsIn_pure ⟨.empty, like⟩
  · refine (OwnedFont.grows_create style.title).bind
      (fun title count => Keeps.tryCatch ?_ fun e => ?_)
      fun more title title' _ like => GrowsIn.tryCatch ?_ (hdiscard title) fun last e hsub => ?_
    · exact (OwnedFont.rises_create style.body count).bind fun _ => .pure _
    · exact hdiscard title e count
    · refine (OwnedFont.grows_create style.body).bind (fun _ _ => .pure _) ?_
      exact fun last body body' hsub hbody =>
        growsIn_pure ⟨like.mono fun _ _ hl => hl.mono hsub, hbody⟩
    · have hlike : title.Like last.Link title' := like.mono fun _ _ hl => hl.mono hsub
      refine (growsIn_of_agree (hlike.agree_discard fun _ _ hl => agree_destroyFont hl)).bind
        (fun _ _ => .throw e) fun _ _ _ _ _ => growsIn_throw e

theorem keeps_made_releaseFonts :
    Keeps (fun p => count ≤ p.2.foundry.made)
      (releaseFonts : Step (Tooltip α) (Client α κ) (Except Error Unit)) := by
  have hrelease : Keeps (fun p => count ≤ p.2.foundry.made)
      (OwnedFont.release : Step OwnedFont (Client α κ) Unit) :=
    OwnedFont.host_keeps_release rises_destroyFont
  have hpart (part : Tooltip α → OwnedFont) (put : OwnedFont → Tooltip α → Tooltip α) :
      Keeps (fun p => count ≤ p.2.foundry.made) (tryCatch (do
        Step.zoom part put OwnedFont.release
        pure (.ok ())) fun e => pure (.error e) :
          Step (Tooltip α) (Client α κ) (Except Error Unit)) := by
    refine Keeps.tryCatch (Keeps.bind ?_ fun _ => .pure _) fun _ => .pure _
    exact fun p hp => hrelease (part p.1, p.2) hp
  exact (hpart _ _).bind fun _ => (hpart _ _).bind fun _ => .pure _

theorem keeps_made_adopt (style : TooltipStyle α) (loaded : OwnedFont × OwnedFont) :
    Keeps (fun p => count ≤ p.2.foundry.made) (do
      let released ← releaseFonts
      Step.update fun tip =>
        { tip with style, titleFont := loaded.1, bodyFont := loaded.2, content? := none }
      Step.check released : Step (Tooltip α) (Client α κ) Unit) := by
  refine keeps_made_releaseFonts.bind fun released => ?_
  exact Keeps.bind (Step.keeps_update fun _ _ h => h) fun _ => Step.keeps_check released

theorem isolated_setStyle (style : TooltipStyle α) :
    Step.Isolated Twins (setStyle style : Step (Tooltip α) (Client α κ) Unit) := by
  refine Step.isolated_check_bind fun _ => Step.isolated_of_rises twins_refl (fun count => ?_)
    fun start kept names => ?_
  · exact Keeps.bind (rises_host (rises_createFonts style) count) (keeps_made_adopt style)
  · refine (Step.grows_host widen (grows_createFonts style)).bind
      (fun loaded _ => keeps_made_adopt style loaded) ?_
    rintro more ⟨title, body⟩ ⟨title', body'⟩ hsub ⟨htitle, hbody⟩
    refine growsIn_of_agree (Accord.bind (blind_releaseFonts fun _ _ hl => agree_destroyFont hl)
      fun r => ?_)
    refine Accord.bind (Step.agree_update ?_) fun _ => Step.agree_check r
    rintro tip _ ⟨-, -⟩
    have htwins : Twins more.Link
        { tip with style, titleFont := title, bodyFont := body, content? := none }
        { tip with style, titleFont := title', bodyFont := body', content? := none } :=
      .twins htitle hbody
    exact htwins

theorem isolated_create (style : TooltipStyle α) (anchor : TooltipAnchor α)
    (placement : TooltipPlacement) (body : String) :
    Client.Isolated Twins
      (create style anchor placement body : HostM (Client α κ) (Tooltip α)) := by
  refine Client.isolated_of_rises twins_refl (fun count => ?_) fun start kept names => ?_
  · refine (Keeps.liftExcept _).bind fun _ => (Keeps.liftExcept _).bind fun _ => ?_
    exact (rises_createFonts style count).bind fun _ => .pure _
  · refine growsIn_check_bind fun _ => growsIn_check_bind fun _ => ?_
    refine (grows_createFonts style).bind (fun _ _ => .pure _) ?_
    rintro more ⟨title, bodyFont⟩ ⟨title', bodyFont'⟩ hsub ⟨htitle, hbody⟩
    exact growsIn_pure (.twins htitle hbody)

end Tooltip

namespace TabRow

theorem isolated_setStyle (style : TabStyle α) :
    Step.Isolated (Twins Client.hearTab)
      (setStyle style : Step (TabRow α (Client α κ) χ) (Client α κ) Unit) := by
  refine Step.isolated_check_bind fun _ => OwnedFont.isolated_restyle exchanges style.text ?_
  exact fun _ _ _ like heard => .twin like heard

variable [PaintHost α κ] [Channel α κ χ]

theorem blind_placeIndicator {F : FontHandle → FontHandle → Prop}
    {R : Client α κ → Client α κ → Prop}
    (hc : Concurs (Private χ) Client.hearTab Client.hearSegment F R) (layout : TabLayout α) :
    Step.Blind (Twins Client.hearTab F) R (tryCatch (syncIndicator layout false) fun e => do
      drop
      throw e : Step (TabRow α (Client α κ) (Private χ)) (Client α κ) Unit) :=
  (blind_syncIndicator hc layout false).tryCatch fun e => (blind_drop hc).bind fun _ => .throw e

theorem isolated_create (style : TabStyle α) (items : List String) (selected : Option Nat)
    (positionChannel widthChannel : Private χ) :
    Client.Isolated (Twins Client.hearTab)
      (create style items selected positionChannel widthChannel :
        HostM (Client α κ) (TabRow α (Client α κ) (Private χ))) where
  rises count s hs := by
    refine .of_check (fun _ _ => .of_check (fun _ _ => ?_) ?_) ?_
    · refine Ends.bind (OwnedFont.rises_create style.text count s hs) (fun font s' hs' => ?_) ?_
      · refine ends_construct_still (T := Twins Client.hearTab) (fun _ => ?_) ?_ hs'
        · exact blind_placeIndicator Client.concurs_still (.unplaced style)
        · exact .twin (.refl font) ⟨none, rfl⟩
      · exact fun e s' hs' => ⟨hs', fun row hrow => (error_ne_ok hrow).elim⟩
    · exact fun e _ => ⟨hs, fun row hrow => (error_ne_ok hrow).elim⟩
    · exact fun e _ => ⟨hs, fun row hrow => (error_ne_ok hrow).elim⟩
  grows start kept names := by
    refine growsIn_check_bind fun _ => growsIn_check_bind fun _ => ?_
    refine (OwnedFont.grows_create style.text).bind (fun font count s hs => ?_)
      fun more font font' _ like => ?_
    · refine (ends_construct_still (T := Twins Client.hearTab) (fun _ => ?_) ?_ hs).imp
        fun _ _ hs' => hs'.1
      · exact blind_placeIndicator Client.concurs_still (.unplaced style)
      · exact .twin (.refl font) ⟨none, rfl⟩
    · refine grows_construct (T := fun names => Twins Client.hearTab names.Link) ?_ ?_
      · exact .twin like ⟨none, rfl⟩
      · exact growsIn_of_agree (blind_placeIndicator Client.concurs_parallel (.unplaced style))

end TabRow

end Fonts

end Widgetry
