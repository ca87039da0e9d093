import Widgetry.Proofs.Geometry.Searches
import Widgetry.Proofs.Host.Steady

/-! The walk along scrollable tabs, in exact arithmetic. Their widths are measured again at every
step, so they are taken from a host that measures alike at any time; the walk then comes to the tab
that the position is on. -/
namespace Widgetry

variable {σ : Type}

namespace Strip

variable {gap pos width : Rat} {rest : List Rat} {i : Nat}

theorem lands_zero : Lands .walk gap (width :: rest) pos 0 ↔ 0 ≤ pos ∧ pos ≤ width := by
  have hoffset : offset gap (width :: rest) 0 = 0 := offset_zero _ _
  constructor
  · rintro ⟨_, ⟨⟩, hleft, hright, -⟩
    rw [hoffset] at hleft hright
    exact ⟨hleft, hright.trans (zero_add _).le⟩
  · rintro ⟨hleft, hright⟩
    refine ⟨width, rfl, ?_, ?_, fun h => (h rfl).elim⟩
    · rwa [hoffset]
    · rwa [hoffset, zero_add]

/-- A later item is found from where the next one starts. -/
theorem lands_succ (hgap : 0 ≤ gap) (hrest : ∀ w ∈ rest, 0 ≤ w) :
    Lands .walk gap (width :: rest) pos (i + 1) ↔
      gap < pos - width ∧ Lands .walk gap rest (pos - width - gap) i := by
  have hfirst : 0 ≤ offset gap rest i := by
    have hmono := offset_mono hgap hrest (Nat.zero_le i)
    rwa [offset_zero] at hmono
  constructor
  · rintro ⟨w, hw, hleft, hright, htakes⟩
    have hne : pos ≠ width + gap + offset gap rest i := htakes (Nat.succ_ne_zero i)
    have hlt := lt_of_le_of_ne hleft hne.symm
    rw [offset] at hlt hright
    refine ⟨by linarith, w, hw, by linarith, by linarith, fun _ heq => hne (by linarith)⟩
  · rintro ⟨hbeyond, w, hw, hleft, hright, htakes⟩
    refine ⟨w, hw, ?_, ?_, fun _ heq => ?_⟩
    · rw [offset]
      linarith
    · rw [offset]
      linarith
    · rw [offset] at heq
      rcases Nat.eq_zero_or_pos i with rfl | hi
      · rw [offset_zero] at heq
        linarith
      · exact htakes hi.ne' (by linarith)

/-- What is found among items numbered from `first` is the first one or is found among the rest. -/
theorem lands_cons {first : Nat} (hgap : 0 ≤ gap) (hrest : ∀ w ∈ rest, 0 ≤ w) (hpos : 0 ≤ pos) :
    (∃ k, i = first + k ∧ Lands .walk gap (width :: rest) pos k) ↔
      i = first ∧ pos ≤ width ∨ gap < pos - width ∧
        ∃ k, i = first + 1 + k ∧ Lands .walk gap rest (pos - width - gap) k := by
  constructor
  · rintro ⟨_ | k, rfl, hlands⟩
    · exact .inl ⟨rfl, (lands_zero.mp hlands).2⟩
    · obtain ⟨hbeyond, hlands⟩ := (lands_succ hgap hrest).mp hlands
      exact .inr ⟨hbeyond, k, by omega, hlands⟩
  · rintro (⟨rfl, hhere⟩ | ⟨hbeyond, k, rfl, hlands⟩)
    · exact ⟨0, rfl, lands_zero.mpr ⟨hpos, hhere⟩⟩
    · exact ⟨k + 1, by omega, (lands_succ hgap hrest).mpr ⟨hbeyond, hlands⟩⟩

end Strip

namespace TabStyle

variable {s : TabStyle Rat} {measurer : Measurer Rat σ} {items : List String} {l : TabLayout Rat}
  {widths : List Rat}

/-- What the labels of scrollable tabs make their widths. -/
def Sized (s : TabStyle Rat) (measurer : Measurer Rat σ) : List String → List Rat → Prop :=
  List.Forall₂ fun item width => Returns (s.itemWidth measurer item) width

theorem ends_minWidth (item : String) {h : σ} :
    Ends (s.itemWidth measurer item) h fun r _ => ∀ w, r = .ok w → s.minWidth ≤ w := by
  refine (Keeps.of_true _ h trivial).bind (fun label h' _ => ?_) fun _ _ _ _ hr => nomatch hr
  rintro _ ⟨⟩
  exact Row.minimum_le_padded _ _ _

theorem Sized.minWidth_le (h : σ) (hsized : s.Sized measurer items widths) :
    ∀ w ∈ widths, s.minWidth ≤ w := by
  induction hsized with
  | nil => exact List.forall_mem_nil _
  | @cons item width items widths hwidth _ ih =>
    obtain ⟨hmin, hr⟩ := (ends_minWidth (s := s) item).and (hwidth h)
    exact List.forall_mem_cons.mpr ⟨hmin width hr, ih⟩

/-- Measured all at once, the tabs of a row are as long as their widths and gaps. -/
theorem returns_scrollableRun (hsized : s.Sized measurer items widths) (hitems : items ≠ [])
    (total : Rat) : Returns (s.scrollableRun measurer total items)
      (total + Strip.offset s.spacing widths widths.length - s.spacing) := by
  induction hsized generalizing total with
  | nil => exact (hitems rfl).elim
  | @cons item width rest widths hwidth hsized ih =>
    cases rest with
    | nil =>
      cases hsized
      have hlength : total + Strip.offset s.spacing [width] 1 - s.spacing = total + width := by
        change total + (width + s.spacing + 0) - s.spacing = total + width
        linarith
      rw [List.length_singleton, hlength]
      exact hwidth.bind (.pure _)
    | cons next rest =>
      rw [List.length_cons, Strip.offset, ← add_assoc, ← add_assoc]
      exact hwidth.bind (ih (List.cons_ne_nil _ _) _)

/-- From a row that could be measured once the widths of its tabs are known. -/
theorem ends_scrollableRun_sized (hm : ∀ text, Steady (measurer text)) (total : Rat) {h : σ} :
    Ends (s.scrollableRun measurer total items) h fun r _ => ∀ length, r = .ok length →
      ∃ widths, s.Sized measurer items widths := by
  induction items generalizing total h with
  | nil => exact fun _ _ => ⟨[], .nil⟩
  | cons item rest ih =>
    have hwidth := ends_run (s.itemWidth measurer item) h
    cases rest with
    | nil =>
      refine hwidth.bind ?_ fun _ _ _ _ hr => nomatch hr
      rintro w h' hrun _ ⟨⟩
      exact ⟨[w], .cons ((s.steady_itemWidth hm item).returns (congrArg Prod.fst hrun)) .nil⟩
    | cons next rest =>
      refine hwidth.bind ?_ fun _ _ _ _ hr => nomatch hr
      intro w h' hrun
      apply (ih _).imp
      intro r _ hr length hlength
      obtain ⟨widths, hsized⟩ := hr length hlength
      exact ⟨w :: widths,
        .cons ((s.steady_itemWidth hm item).returns (congrArg Prod.fst hrun)) hsized⟩

theorem ends_scrollableRun (hm : ∀ text, Steady (measurer text)) (total : Rat) {h : σ} :
    Ends (s.scrollableRun measurer total items) h fun r _ => ∀ length, r = .ok length →
      ∃ widths, s.Sized measurer items widths ∧ (items ≠ [] →
        length = total + Strip.offset s.spacing widths widths.length - s.spacing) := by
  apply (ends_run _ h).and (ends_scrollableRun_sized hm total) |>.imp
  rintro r h' ⟨hrun, hsized⟩ length rfl
  obtain ⟨widths, hsized⟩ := hsized length rfl
  refine ⟨widths, hsized, fun hitems => ?_⟩
  exact Except.ok.inj ((ends_of_run hrun).mp (returns_scrollableRun hsized hitems total h))

/-- A measurer that answers leaves every tab a width. -/
theorem exists_sized {metrics : String → TextMetrics Rat}
    (hm : ∀ text, Returns (measurer text) (metrics text)) (items : List String) :
    ∃ widths, s.Sized measurer items widths ∧ ∀ w ∈ widths, s.minWidth ≤ w := by
  induction items with
  | nil => exact ⟨[], .nil, List.forall_mem_nil _⟩
  | cons item rest ih =>
    obtain ⟨widths, hsized, hmin⟩ := ih
    obtain ⟨label, hlabel⟩ : ∃ label, Returns (Row.labelMetrics measurer item) label := by
      unfold Row.labelMetrics
      split
      · exact ⟨_, .pure _⟩
      · exact ⟨_, hm item⟩
    refine ⟨Row.padded label.width s.paddingX s.minWidth :: widths,
      .cons (hlabel.bind (.pure _)) hsized, List.forall_mem_cons.mpr ⟨?_, hmin⟩⟩
    exact Row.minimum_le_padded _ _ _

theorem returns_scrollableOffset (hsized : s.Sized measurer items widths) (start : Rat) (i : Nat) :
    Returns (s.scrollableOffset measurer start (items.take i))
      (start + Strip.offset s.spacing widths i) := by
  induction hsized generalizing start i with
  | nil =>
    rw [List.take_nil, Strip.offset_nil, add_zero]
    exact .pure start
  | @cons item width items widths hwidth hsized ih =>
    cases i with
    | zero =>
      rw [List.take_zero, Strip.offset_zero, add_zero]
      exact .pure start
    | succ i =>
      rw [List.take_succ_cons, Strip.offset, ← add_assoc]
      exact hwidth.bind (ih _ i)

/-- The walk comes to the item that the position is on. -/
theorem returns_walk (hsized : s.Sized measurer items widths) (hspacing : 0 ≤ l.spacing)
    (hwidths : ∀ w ∈ widths, 0 ≤ w) (first : Nat) {pos : Rat} (hpos : 0 ≤ pos) :
    ∃ found, Returns (s.walk measurer l first pos items) found ∧ ∀ i, found = some i ↔
      ∃ k, i = first + k ∧ Strip.Lands .walk l.spacing widths pos k := by
  induction hsized generalizing first pos with
  | nil =>
    refine ⟨none, .pure none, fun i => iff_of_false (Option.some_ne_none i).symm ?_⟩
    rintro ⟨k, -, w, hw, -⟩
    exact nomatch hw
  | @cons item width items widths hwidth hsized ih =>
    obtain ⟨-, hrest⟩ := List.forall_mem_cons.mp hwidths
    have hcons (i : Nat) :
        (∃ k, i = first + k ∧ Strip.Lands .walk l.spacing (width :: widths) pos k) ↔ _ :=
      Strip.lands_cons hspacing hrest hpos
    by_cases hhere : pos ≤ width
    · refine ⟨some first, hwidth.bind ?_, fun i => ?_⟩
      · rw [if_pos hhere]
        exact .pure _
      · rw [hcons, or_iff_left fun hbeyond => by linarith [hbeyond.1], Option.some_inj, eq_comm]
        exact (and_iff_left hhere).symm
    by_cases hbeyond : items ≠ [] ∧ l.spacing < pos - width
    · obtain ⟨hitems, hbeyond⟩ := hbeyond
      obtain ⟨found, hfound, hiff⟩ := ih hrest (first + 1) (sub_nonneg.mpr hbeyond.le)
      refine ⟨found, hwidth.bind ?_, fun i => ?_⟩
      · rw [if_neg hhere, if_neg (by simpa using hitems), if_neg (not_le.mpr hbeyond)]
        exact hfound
      · rw [hcons, hiff, or_iff_right fun h => hhere h.2, and_iff_right hbeyond]
    · refine ⟨none, hwidth.bind ?_, fun i => iff_of_false (Option.some_ne_none i).symm ?_⟩
      · rw [if_neg hhere]
        split
        · exact .pure none
        next hitems =>
          rw [if_pos (not_lt.mp fun hlt => hbeyond ⟨by simpa using hitems, hlt⟩)]
          exact .pure none
      · rw [hcons]
        rintro (⟨-, hle⟩ | ⟨hlt, k, -, w, hw, -⟩)
        · exact hhere hle
        · refine hbeyond ⟨?_, hlt⟩
          rintro rfl
          cases hsized
          exact nomatch hw

end TabStyle

end Widgetry
