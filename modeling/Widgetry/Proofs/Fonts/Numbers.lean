import Mathlib.Data.List.Nodup
import Widgetry.Proofs.Fonts.Backend

/-! The numbers of fonts on a monospace backend. They count the fonts made and start over after
all of them are used up, and a font is known by its number alone. So the next font is a new one as
long as the font that had its number last is gone. -/
namespace Widgetry.Monospace

variable {α : Type}

/-- The numbers of the live fonts. -/
def numbers (m : Monospace α) : List UInt32 := m.live.map Prod.fst

theorem size?_eq_none_iff {m : Monospace α} {id : UInt32} : m.size? id = none ↔ id ∉ m.numbers := by
  rw [size?, List.lookup_eq_none_iff, numbers, List.mem_map]
  constructor
  · rintro h ⟨entry, hentry, rfl⟩
    exact absurd rfl (bne_iff_ne.mp (h entry hentry))
  · intro h entry hentry
    exact bne_iff_ne.mpr fun heq => h ⟨entry, hentry, heq.symm⟩

theorem mem_numbers_erase {m : Monospace α} {id other : UInt32} :
    other ∈ (m.erase id).numbers ↔ other ∈ m.numbers ∧ other ≠ id := by
  rw [← not_iff_not, ← size?_eq_none_iff, size?_erase, not_and_or, not_not, ← size?_eq_none_iff]
  split <;> simp [*]

theorem mem_numbers_cast {m : Monospace α} {size : α} {id : UInt32} :
    id ∈ (m.cast size).numbers ↔ id = m.nextId ∨ id ∈ m.numbers := by
  rw [← not_iff_not, ← size?_eq_none_iff, size?_cast, not_or, ← size?_eq_none_iff]
  split <;> simp [*]

theorem nodup_erase {m : Monospace α} (h : m.numbers.Nodup) (id : UInt32) :
    (m.erase id).numbers.Nodup :=
  h.sublist (List.Sublist.map _ List.filter_sublist)

theorem nodup_cast {m : Monospace α} (h : m.numbers.Nodup) (size : α) :
    (m.cast size).numbers.Nodup := by
  refine List.nodup_cons.mpr ⟨?_, nodup_erase h m.nextId⟩
  exact fun hmem => (mem_numbers_erase.mp hmem).2 rfl

/-- Where numbers are distinct, one font goes with a number. -/
theorem liveFonts_erase {m : Monospace α} {id : UInt32} (h : m.numbers.Nodup)
    (hid : id ∈ m.numbers) : (m.erase id).liveFonts + 1 = m.liveFonts := by
  have herase : (m.erase id).numbers = m.numbers.erase id := by
    rw [h.erase_eq_filter, numbers, numbers, List.filter_map]
    rfl
  have hlength := List.length_erase_add_one hid
  rwa [← herase, numbers, numbers, List.length_map, List.length_map] at hlength

theorem filter_live {m : Monospace α} {id : UInt32} (h : m.size? id = none) :
    m.live.filter (·.1 != id) = m.live := by
  refine List.filter_eq_self.mpr fun entry hentry => bne_iff_ne.mpr fun heq => ?_
  exact size?_eq_none_iff.mp h (List.mem_map.mpr ⟨entry, hentry, heq⟩)

theorem liveFonts_cast {m : Monospace α} (h : m.size? m.nextId = none) (size : α) :
    (m.cast size).liveFonts = m.liveFonts + 1 :=
  congrArg (List.length · + 1) (filter_live h)

/-- A font that is destroyed at once has used up a number. -/
theorem erase_cast {m : Monospace α} (h : m.size? m.nextId = none) (size : α) :
    (m.cast size).erase m.nextId = { m with lastId := m.nextId } := by
  have hkept : m.live.filter (·.1 != m.nextId) = m.live := filter_live h
  rw [cast, insert, erase, List.filter_cons_of_neg (by simp), hkept, hkept]

/-- A backend and the fonts it has made, the last one first. -/
structure Story (α : Type) where
  backend : Monospace α
  made : List FontHandle

namespace Story

def empty : Story α := ⟨.empty, []⟩

/-- The next font is not in the way of one that is live: of the fonts that have had its number, the
last one is gone. -/
def Clear (t : Story α) : Prop :=
  ∀ font, t.made[UInt32.size - 1]? = some font → t.backend.size? font.id = none

/-- The numbers count the fonts, and a live font is one that was made. -/
structure Counted (t : Story α) : Prop where
  distinct : t.backend.numbers.Nodup
  last : t.backend.lastId = UInt32.ofNat t.made.length
  live : ∀ id ∈ t.backend.numbers, ∃ font ∈ t.made, font.id = id
  made : ∀ i font, t.made[i]? = some font → font.id = UInt32.ofNat (t.made.length - i)

theorem counted_empty : Counted (empty : Story α) where
  distinct := .nil
  last := rfl
  live := nofun
  made := nofun

theorem Counted.nextId {t : Story α} (h : t.Counted) :
    t.backend.nextId = UInt32.ofNat (t.made.length + 1) := by
  rw [Monospace.nextId, h.last, UInt32.ofNat_add]
  rfl

theorem Counted.cast {t : Story α} (h : t.Counted) (size : α) :
    Counted ⟨t.backend.cast size, ⟨t.backend.nextId, 1⟩ :: t.made⟩ where
  distinct := nodup_cast h.distinct size
  last := h.nextId
  live id hid := by
    rcases mem_numbers_cast.mp hid with rfl | hid
    · exact ⟨_, .head _, rfl⟩
    · obtain ⟨font, hfont, rfl⟩ := h.live id hid
      exact ⟨font, .tail _ hfont, rfl⟩
  made i font hi := by
    cases i with
    | zero =>
      obtain rfl := Option.some.inj hi
      exact h.nextId
    | succ i =>
      rw [h.made i font hi, List.length_cons, Nat.add_sub_add_right]

theorem Counted.erase {t : Story α} (h : t.Counted) (id : UInt32) :
    Counted { t with backend := t.backend.erase id } where
  distinct := nodup_erase h.distinct id
  last := h.last
  live other hother := h.live other (mem_numbers_erase.mp hother).1
  made := h.made

/-- The fonts that have had the number of the next one were made whole laps before it. -/
theorem Counted.clear {t : Story α} (h : t.Counted) (hclear : t.Clear) :
    t.backend.size? t.backend.nextId = none := by
  by_contra hlive
  obtain ⟨font, hfont, hid⟩ := h.live _ (not_not.mp (mt size?_eq_none_iff.mpr hlive))
  obtain ⟨i, hi⟩ := List.mem_iff_getElem?.mp hfont
  have hlt : i < t.made.length := (List.getElem?_eq_some_iff.mp hi).1
  have hsize : UInt32.size = 4294967296 := rfl
  rw [h.made i font hi, h.nextId] at hid
  have hsame := congrArg UInt32.toNat hid
  rw [UInt32.toNat_ofNat', UInt32.toNat_ofNat'] at hsame
  have hlap : UInt32.size - 1 < t.made.length := by omega
  obtain ⟨old, hold⟩ : ∃ old, t.made[UInt32.size - 1]? = some old :=
    ⟨_, List.getElem?_eq_getElem hlap⟩
  have hnumber : old.id = t.backend.nextId := by
    rw [h.made _ old hold, h.nextId]
    apply UInt32.toNat_inj.mp
    rw [UInt32.toNat_ofNat', UInt32.toNat_ofNat']
    omega
  exact hlive (hnumber ▸ hclear old hold)

end Story

variable [Scalar α]

/-- What a font measures a text as. -/
def measured (m : Monospace α) (font : FontHandle) (text : String) : Except Error (TextMetrics α) :=
  ((measureText font text).run m).1

/-- A font is known by its number. -/
theorem measured_congr {m m' : Monospace α} {font : FontHandle}
    (h : m.size? font.id = m'.size? font.id) (text : String) :
    m.measured font text = m'.measured font text := by
  rw [measured, measured, run_measureText, run_measureText, h]
  cases m'.size? font.id <;> rfl

/-- A call that changes which fonts there are. -/
inductive Call (α : Type) where
  | create (style : TextStyle α)
  | destroy (font : FontHandle)

namespace Story

def call (t : Story α) : Call α → Story α
  | .create style =>
    match (createFont style).run t.backend with
    | (.ok font, backend) => ⟨backend, font :: t.made⟩
    | (.error _, backend) => { t with backend }
  | .destroy font => { t with backend := ((destroyFont font).run t.backend).2 }

def after (calls : List (Call α)) : Story α := calls.foldl call empty

/-- A call makes a font, destroys one, or fails. -/
theorem call_cases (t : Story α) (c : Call α) :
    (∃ size, t.call c = ⟨t.backend.cast size, ⟨t.backend.nextId, 1⟩ :: t.made⟩) ∨
      (∃ id, t.call c = { t with backend := t.backend.erase id }) ∨ t.call c = t := by
  cases c with
  | create style =>
    rw [call, run_createFont]
    cases style.validate false with
    | ok => exact .inl ⟨_, rfl⟩
    | error e => exact .inr (.inr rfl)
  | destroy font =>
    rw [call, run_destroyFont]
    cases t.backend.size? font.id with
    | some size => exact .inr (.inl ⟨font.id, rfl⟩)
    | none => exact .inr (.inr rfl)

theorem Counted.call {t : Story α} (h : t.Counted) (c : Call α) : (t.call c).Counted := by
  rcases t.call_cases c with ⟨size, hcall⟩ | ⟨id, hcall⟩ | hcall
  all_goals rw [hcall]
  · exact h.cast size
  · exact h.erase id
  · exact h

theorem counted_after (calls : List (Call α)) : (after calls).Counted := by
  have hfold (t : Story α) (h : t.Counted) : (calls.foldl call t).Counted := by
    induction calls generalizing t with
    | nil => exact h
    | cons c calls ih => exact ih (t.call c) (h.call c)
  exact hfold empty counted_empty

/-- Whatever fonts were made and destroyed before, the next one is new if the last one that had its
number is gone, and no font goes with another one. -/
theorem fonts_distinct (calls : List (Call α)) :
    (∀ style font m, (createFont style).run (after calls).backend = (.ok font, m) →
      (after calls).Clear →
        font.id ∉ (after calls).backend.numbers ∧
        m.liveFonts = (after calls).backend.liveFonts + 1 ∧
        ∀ other text, other.id ≠ font.id →
          m.measured other text = (after calls).backend.measured other text) ∧
    ∀ font m, (destroyFont font).run (after calls).backend = (.ok (), m) →
      m.liveFonts + 1 = (after calls).backend.liveFonts := by
  have hcounted := counted_after calls
  constructor
  · intro style font m hrun hclear
    have hnext := hcounted.clear hclear
    rw [run_createFont] at hrun
    split at hrun
    · obtain ⟨⟨⟩, rfl⟩ := Prod.mk.inj hrun
      refine ⟨size?_eq_none_iff.mp hnext, liveFonts_cast hnext _, fun other text hother => ?_⟩
      exact measured_congr ((size?_cast _ _ _).trans (if_neg hother)) text
    · exact (error_ne_ok (Prod.mk.inj hrun).1).elim
  · intro font m hrun
    rw [run_destroyFont] at hrun
    split at hrun
    next size hsize =>
      obtain ⟨-, rfl⟩ := Prod.mk.inj hrun
      refine liveFonts_erase hcounted.distinct ?_
      exact not_not.mp fun hid => Option.some_ne_none size
        (hsize.symm.trans (size?_eq_none_iff.mpr hid))
    next => exact (error_ne_ok (Prod.mk.inj hrun).1).elim

theorem fonts_distinct_third :
    let t : Story Binary32 := after [.create .default, .create .default, .destroy ⟨1, 1⟩]
    (∃ font m, (createFont .default).run t.backend = (.ok font, m) ∧ t.Clear ∧
      font.id ∉ t.backend.numbers ∧ m.liveFonts = t.backend.liveFonts + 1 ∧
      m.measured ⟨2, 1⟩ "A" = t.backend.measured ⟨2, 1⟩ "A") ∧
    ∃ m, (destroyFont ⟨2, 1⟩).run t.backend = (.ok (), m) ∧
      m.liveFonts + 1 = t.backend.liveFonts := by
  have hvalid : (TextStyle.default : TextStyle Binary32).validate false = .ok () := by
    decide +kernel
  intro t
  have ht : t = ⟨⟨2, [(2, Scalar.ofInt 14)]⟩, [⟨2, 1⟩, ⟨1, 1⟩]⟩ := by
    simp only [t, after, List.foldl_cons, List.foldl_nil, call, run_createFont, hvalid]
    rfl
  have hclear : t.Clear := by
    intro font hfont
    rw [ht] at hfont
    exact (Option.some_ne_none font hfont.symm).elim
  obtain ⟨hcreate, hdestroy⟩ :=
    fonts_distinct [.create (.default : TextStyle Binary32), .create .default, .destroy ⟨1, 1⟩]
  constructor
  · have hrun : (createFont (.default : TextStyle Binary32)).run t.backend =
        (.ok ⟨3, 1⟩, t.backend.cast (Scalar.ofInt 14)) := by
      rw [run_createFont, hvalid, ht]
      rfl
    obtain ⟨hnew, hmore, hkept⟩ := hcreate .default ⟨3, 1⟩ _ hrun hclear
    exact ⟨⟨3, 1⟩, _, hrun, hclear, hnew, hmore, hkept ⟨2, 1⟩ "A" (by decide)⟩
  · have hrun : (destroyFont ⟨2, 1⟩).run t.backend = (.ok (), t.backend.erase 2) := by
      rw [run_destroyFont, ht]
      rfl
    exact ⟨_, hrun, hdestroy ⟨2, 1⟩ _ hrun⟩

/-- Makes a font, and then others that are destroyed at once. -/
def lap (style : TextStyle α) : Nat → List (Call α)
  | 0 => [.create style]
  | n + 1 => lap style n ++ [.create style, .destroy ⟨UInt32.ofNat (n + 2), 1⟩]

/-- The first font outlives the others while they use up the numbers. -/
theorem after_lap {style : TextStyle α} (h : style.validate false = .ok ()) {n : Nat}
    (hn : n < UInt32.size) : (after (lap style n)).backend =
      ⟨UInt32.ofNat (n + 1), [(1, Scalar.ofInt style.sizePx)]⟩ := by
  induction n with
  | zero =>
    rw [lap, after, List.foldl_cons, List.foldl_nil, call, run_createFont, h]
    rfl
  | succ n ih =>
    have hstart := ih (by omega)
    rw [lap, after, List.foldl_append]
    change (List.foldl call (after (lap style n)) _).backend = _
    generalize after (lap style n) = t at hstart
    have hnext : t.backend.nextId = UInt32.ofNat (n + 2) := by
      rw [nextId, hstart, UInt32.ofNat_add (n + 1) 1]
      rfl
    have hother : UInt32.ofNat (n + 2) ≠ 1 := by
      intro heq
      have hsize : UInt32.size = 4294967296 := rfl
      have hvalue : (UInt32.ofNat (n + 2)).toNat = 1 := congrArg UInt32.toNat heq
      rw [UInt32.toNat_ofNat'] at hvalue
      omega
    have hnew : t.backend.size? t.backend.nextId = none := by
      rw [hnext, size?, hstart, List.lookup_cons, beq_eq_false_iff_ne.mpr hother]
      rfl
    rw [List.foldl_cons, List.foldl_cons, List.foldl_nil, call, run_createFont, h]
    dsimp only
    rw [call, run_destroyFont, ← hnext, size?_cast, if_pos rfl]
    dsimp only
    rw [erase_cast hnew, hnext, hstart]

/-- After a lap the number of a live font is given to another one, which takes its place. And a
handle with a number that nobody was given yet measures once the number is given. -/
theorem number_reused :
    (let t := after (lap (.default : TextStyle Binary32) (UInt32.size - 1))
    ∃ font m, (createFont { TextStyle.default with sizePx := 20 }).run t.backend = (.ok font, m) ∧
      font.id ∈ t.backend.numbers ∧ m.liveFonts = t.backend.liveFonts ∧
      m.measured font "A" ≠ t.backend.measured font "A") ∧
    ∃ font m, (createFont (.default : TextStyle Binary32)).run .empty = (.ok font, m) ∧
      (⟨1, 2⟩ : FontHandle) ≠ font ∧
      m.measured ⟨1, 2⟩ "A" ≠ Monospace.empty.measured ⟨1, 2⟩ "A" := by
  have hvalid : (TextStyle.default : TextStyle Binary32).validate false = .ok () := by
    decide +kernel
  have hlarge : ({ TextStyle.default with sizePx := 20 } : TextStyle Binary32).validate false =
      .ok () := by decide +kernel
  constructor
  · have hlap : (after (lap (.default : TextStyle Binary32) (UInt32.size - 1))).backend =
        ⟨0, [(1, Scalar.ofInt 14)]⟩ := after_lap hvalid (by decide)
    dsimp only
    rw [hlap, run_createFont, hlarge]
    exact ⟨_, _, rfl, by decide, rfl, by decide +kernel⟩
  · rw [run_createFont, hvalid]
    exact ⟨_, _, rfl, by decide, by decide +kernel⟩

end Story

end Widgetry.Monospace
