import Mathlib.Logic.Function.Basic
import Widgetry.Proofs.Host.Scripted
import Widgetry.Proofs.Sharing.Orders

/-! Any number of widgets on one backend, with orders in any order. Each place fares as it would
with its own orders alone: the other orders use numbers of their own. -/
namespace Widgetry

variable {α κ χ : Type}

/-- A place with its widget, what its orders were answered, and what it does not share. -/
structure Place (α κ χ : Type) where
  widget : Option (Widget α (Client α κ) (Private χ))
  replies : List (Except Error (Reply α))
  desk : Desk α κ

/-- Places on one backend. -/
structure Floor (α κ χ : Type) where
  foundry : Foundry α
  places : Nat → Place α κ χ

/-- The same up to the numbers of fonts. -/
structure Place.Alike (names : Names) (s s' : Place α κ χ) : Prop where
  widget : Option.Rel (Widget.Twins names.Link) s.widget s'.widget
  replies : s.replies = s'.replies
  desk : s.desk.Alike names s'.desk

theorem Mirrored.beside {start f g : Foundry α} {kept : UInt32 → Prop} {names others : Names}
    (h : Mirrored others start g) (hb : Beside start kept names f)
    (hk : ∀ p ∈ others, kept p.1) (hc : f.backend.lastId.toNat = f.made) : Mirrored others f g where
  sizes id id' hp := (hb.untouched id (hk _ hp)).trans (h.sizes id id' hp)
  oneToOne := h.oneToOne
  old p hp := ⟨Nat.le_trans (h.old p hp).1 hb.risen, (h.old p hp).2⟩
  counted := ⟨hc, h.counted.2⟩
  fewer := Nat.le_trans h.fewer hb.risen

theorem mirrored_empty : Mirrored [] (Foundry.empty : Foundry α) .empty where
  sizes _ _ hp := (List.not_mem_nil hp).elim
  oneToOne _ hp := (List.not_mem_nil hp).elim
  old _ hp := (List.not_mem_nil hp).elim
  counted := ⟨rfl, rfl⟩
  fewer := Nat.le_refl _

namespace Floor

/-- Nothing is built and no font made. -/
def start (own : Nat → κ) : Floor α κ χ where
  foundry := .empty
  places n := ⟨none, [], ⟨[], [], own n⟩⟩

/-- The orders for one place. -/
def ordersFor (n : Nat) (orders : List (Nat × Deed α κ χ)) : List (Nat × Deed α κ χ) :=
  orders.filter (·.1 = n)

/-- The numbers of the fonts of all places but one. -/
def Elsewhere (names : Nat → Names) (n : Nat) (id : UInt32) : Prop :=
  ∃ m, m ≠ n ∧ ∃ id', (id, id') ∈ names m

/-- The fonts of two places share no number. -/
def Apart (names : Nat → Names) : Prop :=
  ∀ n id id', Elsewhere names n id → (id, id') ∉ names n

theorem Apart.update {names : Nat → Names} {n : Nat} {more : Names} (h : Apart names)
    (hmore : ∀ id id', Elsewhere names n id → (id, id') ∉ more) :
    Apart (Function.update names n more) := by
  rintro l id id' ⟨m, hm, other, hother⟩ hid
  by_cases hl : l = n
  · subst hl
    rw [Function.update_of_ne hm] at hother
    rw [Function.update_self] at hid
    exact hmore id id' ⟨m, hm, other, hother⟩ hid
  · rw [Function.update_of_ne hl] at hid
    by_cases hn : m = n
    · subst hn
      rw [Function.update_self] at hother
      exact hmore id other ⟨l, hl, id', hid⟩ hother
    · rw [Function.update_of_ne hn] at hother
      exact h l id id' ⟨m, hm, other, hother⟩ hid

/-- Each place, among all and alone. -/
structure Among (names : Nat → Names) (f : Floor α κ χ) (alone : Nat → Floor α κ χ) : Prop where
  mirrored : ∀ n, Mirrored (names n) f.foundry (alone n).foundry
  apart : Apart names
  places : ∀ n, (f.places n).Alike (names n) ((alone n).places n)

/-- Every listener is one whose calls are recorded. -/
def Heard (f : Floor α κ χ) : Prop :=
  ∀ n, Option.Rel (Widget.Twins Eq) (f.places n).widget (f.places n).widget

variable [Scalar α] [PaintHost α κ] [Channel α κ χ]

/-- How an order ends. -/
def outcome (f : Floor α κ χ) (n : Nat) (deed : Deed α κ χ) :
    Except Error (Reply α) × Option (Widget α (Client α κ) (Private χ)) × Client α κ :=
  deed.ask.run ((f.places n).widget, ⟨f.foundry, (f.places n).desk⟩)

def next (f : Floor α κ χ) (order : Nat × Deed α κ χ) : Floor α κ χ :=
  let (n, deed) := order
  let ended := f.outcome n deed
  { foundry := ended.2.2.foundry
    places := Function.update f.places n
      ⟨ended.2.1, (f.places n).replies ++ [ended.1], ended.2.2.desk⟩ }

def run (f : Floor α κ χ) (orders : List (Nat × Deed α κ χ)) : Floor α κ χ := orders.foldl next f

variable {f : Floor α κ χ} {names : Nat → Names} {alone : Nat → Floor α κ χ} {m n : Nat}
  {deed : Deed α κ χ}

@[simp] theorem places_next_self : (f.next (n, deed)).places n =
    ⟨(f.outcome n deed).2.1, (f.places n).replies ++ [(f.outcome n deed).1],
      (f.outcome n deed).2.2.desk⟩ := Function.update_self ..

@[simp] theorem places_next_of_ne (hm : m ≠ n) : (f.next (n, deed)).places m = f.places m :=
  Function.update_of_ne hm ..

theorem heard_next (h : f.Heard) (n : Nat) (deed : Deed α κ χ) :
    (f.next (n, deed)).Heard ∧ f.foundry.made ≤ (f.next (n, deed)).foundry.made := by
  obtain ⟨hw, hmade⟩ := (Deed.isolated_ask deed).rises f.foundry.made
    ((f.places n).widget, ⟨f.foundry, (f.places n).desk⟩) ⟨h n, Nat.le_refl _⟩
  refine ⟨fun m => ?_, hmade⟩
  by_cases hm : m = n
  · subst hm
    rw [places_next_self]
    exact hw
  · rw [places_next_of_ne hm]
    exact h m

theorem made_le_run (h : f.Heard) (orders : List (Nat × Deed α κ χ)) :
    f.foundry.made ≤ (f.run orders).foundry.made := by
  induction orders generalizing f with
  | nil => exact Nat.le_refl _
  | cons order orders ih =>
    obtain ⟨hheard, hle⟩ := heard_next h order.1 order.2
    exact Nat.le_trans hle (ih hheard)

omit [Scalar α] [PaintHost α κ] [Channel α κ χ] in
/-- The other places hold numbers that have been issued, and none of this place. -/
theorem Among.beside (h : Among names f alone) (n : Nat) :
    Beside f.foundry (Elsewhere names n) (names n) f.foundry where
  risen := Nat.le_refl _
  old := by
    rintro id ⟨m, -, id', hmem⟩
    exact ((h.mirrored m).old _ hmem).1
  untouched _ _ := rfl
  apart := h.apart n

/-- The place that is ordered does among all what it does alone, and leaves alone the fonts of
the other places. -/
theorem Among.next (h : Among names f alone) (n : Nat) (deed : Deed α κ χ)
    (hlt : (f.next (n, deed)).foundry.made < UInt32.size) :
    ∃ names', Among names' (f.next (n, deed))
      (Function.update alone n ((alone n).next (n, deed))) := by
  obtain ⟨more, hsub, hsame, hwidget, ⟨hmirrored, hbeside⟩, hdesk⟩ :=
    (Deed.isolated_ask deed).grows f.foundry (Elsewhere names n) (names n)
      ((f.places n).widget, ⟨f.foundry, (f.places n).desk⟩)
      (((alone n).places n).widget, ⟨(alone n).foundry, ((alone n).places n).desk⟩)
      ⟨(h.places n).widget, ⟨h.mirrored n, h.beside n⟩, (h.places n).desk⟩ hlt
  have hreplies : (f.outcome n deed).1 = ((alone n).outcome n deed).1 := hsame.eq
  refine ⟨Function.update names n more, fun m => ?_, h.apart.update hbeside.apart, fun m => ?_⟩
  · by_cases hm : m = n
    · subst hm
      rw [Function.update_self, Function.update_self]
      exact hmirrored
    · simp only [Function.update_of_ne hm]
      exact (h.mirrored m).beside hbeside (fun p hp => ⟨m, hm, p.2, hp⟩) hmirrored.counted.1
  · by_cases hm : m = n
    · subst hm
      simp only [Function.update_self, places_next_self]
      exact ⟨hwidget, by rw [(h.places m).replies, hreplies], hdesk⟩
    · simp only [Function.update_of_ne hm, places_next_of_ne hm]
      exact h.places m

theorem Among.run (h : Among names f alone) (hheard : f.Heard) (orders : List (Nat × Deed α κ χ))
    (hlt : (f.run orders).foundry.made < UInt32.size) :
    ∃ names', Among names' (f.run orders) fun n => (alone n).run (ordersFor n orders) := by
  induction orders generalizing f names alone with
  | nil => exact ⟨names, h⟩
  | cons order orders ih =>
    obtain ⟨n, deed⟩ := order
    obtain ⟨hheard', -⟩ := heard_next hheard n deed
    obtain ⟨names', h'⟩ := h.next n deed (Nat.lt_of_le_of_lt (made_le_run hheard' orders) hlt)
    obtain ⟨names'', h''⟩ := ih h' hheard' hlt
    refine ⟨names'', ?_⟩
    have hrun : (fun m => (Function.update alone n ((alone n).next (n, deed)) m).run
        (ordersFor m orders)) = fun m => (alone m).run (ordersFor m ((n, deed) :: orders)) := by
      funext m
      by_cases hm : m = n
      · subst hm
        simp [ordersFor, Floor.run]
      · simp [ordersFor, hm, Ne.symm hm]
    rwa [hrun] at h''

omit [Scalar α] [PaintHost α κ] [Channel α κ χ] in
theorem among_start (own : Nat → κ) :
    Among (fun _ => []) (start own : Floor α κ χ) fun _ => start own where
  mirrored _ := mirrored_empty
  apart _ _ _ _ := List.not_mem_nil
  places _ := ⟨.none, rfl, .nil, rfl, rfl⟩

/-- Whatever is ordered of whichever places, and in which order: as long as fewer fonts are made
than there are numbers, each place has the widget it would have if its own orders were the only
ones, was answered the same and asked its painter, listeners and channels for the same. Only the
numbers of fonts are others. -/
theorem noninterference (own : Nat → κ) (orders : List (Nat × Deed α κ χ))
    (hfew : ((start own).run orders).foundry.made < UInt32.size) (n : Nat) :
    ∃ names : Names, (∀ p ∈ names, ∀ q ∈ names, p.1 = q.1 ↔ p.2 = q.2) ∧
      (((start own).run orders).places n).Alike names
        (((start own).run (ordersFor n orders)).places n) := by
  have hheard : (start own : Floor α κ χ).Heard := fun _ => .none
  obtain ⟨names, h⟩ := (among_start own).run hheard orders hfew
  exact ⟨names n, (h.mirrored n).oneToOne, h.places n⟩

/-- A label and a badge take turns. The badge gives way to a second label, so the fonts of the two
places are numbered across each other. -/
def takingTurns : List (Nat × Deed Rat (Scripted Rat) (Timing Rat)) :=
  let style : TextStyle Rat := .withFamily "Sans"
  let badge : BadgeStyle Rat := { BadgeStyle.default with text := style }
  [(0, .build (.label style "one")), (1, .build (.badge badge (some "7"))),
    (0, .act (.label (.setStyle style))), (1, .drive .paint), (1, .drop),
    (1, .build (.label style "two")), (0, .drive .paint), (1, .drive .paint),
    (0, .drive .destroy), (1, .act (.label .paint))]

theorem noninterference_takingTurns :
    let own : Nat → Scripted Rat := fun _ => .start []
    let among : Floor Rat (Scripted Rat) (Timing Rat) := (start own).run takingTurns
    let alone : Floor Rat (Scripted Rat) (Timing Rat) :=
      (start own).run (ordersFor 1 takingTurns)
    among.foundry.made = 4 ∧ (among.places 1).desk.painted ≠ (alone.places 1).desk.painted ∧
      ∃ names : Names, (∀ p ∈ names, ∀ q ∈ names, p.1 = q.1 ↔ p.2 = q.2) ∧
        (among.places 1).Alike names (alone.places 1) := by
  intro own among alone
  have hmade : among.foundry.made = 4 := by decide +kernel
  have hfew : among.foundry.made < UInt32.size := by
    rw [hmade]
    decide
  have hother : (among.places 1).desk.painted ≠ (alone.places 1).desk.painted := by decide +kernel
  exact ⟨hmade, hother, noninterference own takingTurns hfew 1⟩

end Floor

end Widgetry
