import Widgetry.Proofs.Caches.Lines
import Widgetry.Proofs.Host.Measuring
import Widgetry.Proofs.Reachable

/-! What a tooltip has in store it can draw: it holds a font for each line that it remembers the
metrics of, and it remembers a title only in the variant that shows one. -/
namespace Widgetry.Tooltip

variable {α τ : Type} {tip : Tooltip α}

structure Backed (tip : Tooltip α) (content : TooltipContent α) : Prop where
  title : content.title.isSome →
    tip.style.variant = .rich ∧ tip.title.isSome ∧ tip.titleFont.isLive
  body : content.body.isSome → tip.bodyFont.isLive

theorem title_isSome_of_shownTitle (h : tip.shownTitle ≠ "") : tip.title.isSome := by
  unfold shownTitle at h
  split at h
  next title _ htitle => exact Option.isSome_of_eq_some htitle
  next => exact (h rfl).elim

theorem ofLines_backed : OfLines (Backed : Tooltip α → TooltipContent α → Prop) :=
  fun _ _ _ _ _ _ _ h => ⟨h.title, h.body⟩

variable [TextHost α τ]

/-- A line that is measured is not blank, and its font is held. -/
theorem ends_measureLine_live (font : OwnedFont) (text : String) {h : τ} :
    Ends (measureLine font text) h fun r _ => ∀ line, r = .ok line → line.isSome →
      text ≠ "" ∧ font.isLive := by
  unfold measureLine
  split
  next =>
    rintro _ ⟨⟩ hsome
    exact nomatch hsome
  next hblank =>
    have htext : text ≠ "" := fun heq => hblank (String.isEmpty_iff.mpr heq)
    refine .of_check (fun handle hhandle => ?_) fun _ _ _ hr => nomatch hr
    have hlive : font.isLive := Option.isSome_of_eq_some (OwnedFont.handle_eq_ok.mp hhandle)
    refine (ends_run _ h).bind ?_ fun _ _ _ _ hr => nomatch hr
    exact fun _ _ _ _ _ _ => ⟨htext, hlive⟩

theorem keeps_measureLine {inv : τ → Prop} {font : OwnedFont} (hm : font.Measures α inv)
    (text : String) : Keeps inv (measureLine font text) := by
  refine .ite (fun _ => .pure _) fun _ => OwnedFont.keeps_handle fun handle hhandle => ?_
  exact (hm handle hhandle text).bind fun _ => .pure _

/-- Measuring its lines is all that a tooltip asks its host for. -/
theorem ends_content_keeps {inv : τ → Prop} (htitle : tip.titleFont.Measures α inv)
    (hbody : tip.bodyFont.Measures α inv) {h : τ} (hh : inv h) :
    Ends (content : Step (Tooltip α) τ (TooltipContent α)) (tip, h) fun _ p => inv p.2 := by
  rw [content, ends_bind, Step.ends_self]
  dsimp only
  split
  · exact hh
  rw [ends_bind, Step.ends_host]
  apply (keeps_measureLine hbody tip.body h hh).imp
  rintro (e | body) h₁ hh₁
  · exact hh₁
  dsimp only
  rw [ends_bind, Step.ends_host, measureTitle_eq]
  apply (keeps_measureLine htitle tip.shownTitle h₁ hh₁).imp
  rintro (e | title) h₂ hh₂
  · exact hh₂
  · exact hh₂

/-- What is answered is in store from then on, and nothing else changes. -/
theorem ends_content_backed (htip : tip.Stores Backed) {h : τ} :
    Ends content (tip, h) fun r p =>
      match r with
      | .ok content => p.1 = { tip with content? := some content } ∧ tip.Backed content
      | .error _ => p.1 = tip := by
  rw [content, ends_bind, Step.ends_self]
  dsimp only
  split
  next content hstored =>
    have hsame : tip = { tip with content? := some content } := by rw [← hstored]
    exact ⟨hsame, htip content hstored⟩
  next =>
    rw [ends_bind, Step.ends_host]
    change Ends (measureLine tip.bodyFont tip.body) h _
    apply (ends_measureLine_live tip.bodyFont tip.body).imp
    rintro (e | body) h₁ hbody
    · rfl
    dsimp only
    rw [ends_bind, Step.ends_host, measureTitle_eq]
    apply (ends_measureLine_live tip.titleFont tip.shownTitle).imp
    rintro (e | title) h₂ htitle
    · rfl
    refine ⟨rfl, fun hsome => ?_, fun hsome => (hbody body rfl hsome).2⟩
    obtain ⟨hshown, hlive⟩ := htitle title rfl hsome
    exact ⟨rich_of_shownTitle hshown, title_isSome_of_shownTitle hshown, hlive⟩

theorem keeps_content_backed : Keeps (fun p => p.1.Stores Backed)
    (content : Step (Tooltip α) τ (TooltipContent α)) := by
  rintro ⟨tip, h⟩ htip
  apply (ends_content_backed htip).imp
  rintro (e | content) ⟨_, h'⟩ hp
  · obtain rfl : _ = tip := hp
    exact htip
  · obtain ⟨rfl, hbacked⟩ := hp
    rintro _ ⟨⟩
    exact ⟨hbacked.title, hbacked.body⟩

variable [Scalar α] [PaintHost α τ]

theorem keeps_run_backed (op : TooltipOp α) :
    Keeps (fun p => p.1.Stores Backed) (op.run : Step (Tooltip α) τ Unit) :=
  keeps_run_stores ofLines_backed keeps_content_backed op

theorem Made.backed (h : tip.Made τ) : tip.Stores Backed :=
  h.invariant (Stores Backed) (fun style anchor placement body _ =>
    ends_create_stores style anchor placement body) keeps_run_backed

end Widgetry.Tooltip
