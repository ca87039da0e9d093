import Widgetry.Proofs.Fonts.Backend
import Widgetry.Proofs.Host.Agree

/-! A backend whose fonts are used by many, beside one whose fonts are used by one of them alone.
What that one can ask of its own fonts is answered alike, under other numbers. -/
namespace Widgetry

variable {α : Type}

/-- A backend that counts the fonts it makes. -/
structure Foundry (α : Type) where
  backend : Monospace α
  made : Nat

namespace Foundry

variable {β : Type}

def empty : Foundry α := ⟨.empty, 0⟩

def erase (f : Foundry α) (id : UInt32) : Foundry α :=
  { f with backend := f.backend.erase id }

def nextId (f : Foundry α) : UInt32 := f.backend.lastId + 1

def cast (f : Foundry α) (size : α) : Foundry α where
  backend := { f.backend with lastId := f.nextId }.insert f.nextId size
  made := f.made + 1

def onBackend (act : HostM (Monospace α) β) : HostM (Foundry α) β :=
  HostM.zoom backend (fun backend f => { f with backend }) act

variable [Scalar α]

def createFont (style : TextStyle α) : HostM (Foundry α) FontHandle := do
  let font ← onBackend (Monospace.createFont style)
  modify fun f => { f with made := f.made + 1 }
  return font

variable {f g : Foundry α} {font : FontHandle}

theorem ends_createFont {style : TextStyle α} {post : Except Error FontHandle → Foundry α → Prop} :
    Ends (createFont style) f post ↔
      match style.validate false with
      | .ok _ => post (.ok ⟨f.nextId, 1⟩) (f.cast (Scalar.ofInt style.sizePx))
      | .error e => post (.error e) f := by
  unfold createFont onBackend
  rw [ends_bind, HostM.ends_zoom, Monospace.ends_createFont]
  cases style.validate false <;> exact Iff.rfl

omit [Scalar α] in
theorem ends_destroyFont {post : Except Error Unit → Foundry α → Prop} :
    Ends (onBackend (Monospace.destroyFont font)) f post ↔
      match f.backend.size? font.id with
      | some _ => post (.ok ()) (f.erase font.id)
      | none => post (.error (.state .unknownFont)) f := by
  refine (HostM.ends_zoom backend _).trans (Monospace.ends_destroyFont.trans ?_)
  cases f.backend.size? font.id <;> exact Iff.rfl

theorem ends_measureText {text : String}
    {post : Except Error (TextMetrics α) → Foundry α → Prop} :
    Ends (onBackend (Monospace.measureText font text)) f post ↔
      match f.backend.size? font.id with
      | some size => post (.ok (Monospace.metrics size text)) f
      | none => post (.error (.state .unknownFont)) f := by
  exact (HostM.ends_zoom backend _).trans Monospace.ends_measureText

end Foundry

/-- The numbers of the fonts of one user: among many, and alone. -/
abbrev Names := List (UInt32 × UInt32)

/-- The same font among many and alone. -/
def Names.Link (names : Names) (font font' : FontHandle) : Prop :=
  (font.id, font'.id) ∈ names ∧ font.generation = font'.generation

/-- The fonts of one user, in the backend it shares and in one of its own. Fonts it has destroyed
keep their names. -/
structure Mirrored (names : Names) (f g : Foundry α) : Prop where
  sizes : ∀ id id', (id, id') ∈ names → f.backend.size? id = g.backend.size? id'
  oneToOne : ∀ p ∈ names, ∀ q ∈ names, p.1 = q.1 ↔ p.2 = q.2
  old : ∀ p ∈ names, p.1.toNat ≤ f.made ∧ p.2.toNat ≤ g.made
  /-- No number has been issued twice. -/
  counted : f.backend.lastId.toNat = f.made ∧ g.backend.lastId.toNat = g.made
  fewer : g.made ≤ f.made

/-- What the user of `names` has left alone since `start`: the fonts of others. -/
structure Beside (start : Foundry α) (kept : UInt32 → Prop) (names : Names) (f : Foundry α) :
    Prop where
  risen : start.made ≤ f.made
  old : ∀ id, kept id → id.toNat ≤ start.made
  untouched : ∀ id, kept id → f.backend.size? id = start.backend.size? id
  apart : ∀ id id', kept id → (id, id') ∉ names

section Fonts

variable {f g start : Foundry α} {names : Names} {kept : UInt32 → Prop} {id id' : UInt32}

theorem Mirrored.erase (h : Mirrored names f g) (hp : (id, id') ∈ names) :
    Mirrored names (f.erase id) (g.erase id') where
  sizes other other' ho := by
    have hiff : other = id ↔ other' = id' := h.oneToOne _ ho _ hp
    simp only [Foundry.erase, Monospace.size?_erase, hiff, h.sizes other other' ho]
  oneToOne := h.oneToOne
  old := h.old
  counted := h.counted
  fewer := h.fewer

theorem Beside.erase (h : Beside start kept names f) (hp : (id, id') ∈ names) :
    Beside start kept names (f.erase id) where
  risen := h.risen
  old := h.old
  untouched other ho := by
    have hne : other ≠ id := by
      rintro rfl
      exact h.apart other id' ho hp
    simp only [Foundry.erase, Monospace.size?_erase, if_neg hne, h.untouched other ho]
  apart := h.apart

theorem Foundry.toNat_nextId (hc : f.backend.lastId.toNat = f.made)
    (hlt : f.made + 1 < UInt32.size) : f.nextId.toNat = f.made + 1 := by
  rw [nextId, UInt32.toNat_add, hc]
  exact Nat.mod_eq_of_lt hlt

/-- A number that is not above the count is not the next one. -/
theorem Foundry.ne_nextId (hc : f.backend.lastId.toNat = f.made) (hlt : f.made + 1 < UInt32.size)
    (hid : id.toNat ≤ f.made) : id ≠ f.nextId := by
  rintro rfl
  rw [toNat_nextId hc hlt] at hid
  omega

/-- Both backends make a font, and the counts tell its two numbers from all others. -/
theorem Mirrored.cast (h : Mirrored names f g) (hlt : f.made + 1 < UInt32.size) (size : α) :
    Mirrored ((f.nextId, g.nextId) :: names) (f.cast size) (g.cast size) := by
  have hlt' : g.made + 1 < UInt32.size := Nat.lt_of_le_of_lt (Nat.succ_le_succ h.fewer) hlt
  have hf := Foundry.toNat_nextId h.counted.1 hlt
  have hg := Foundry.toNat_nextId h.counted.2 hlt'
  have hnew : ∀ p ∈ names, p.1 ≠ f.nextId ∧ p.2 ≠ g.nextId := fun p hp =>
    ⟨Foundry.ne_nextId h.counted.1 hlt (h.old p hp).1,
      Foundry.ne_nextId h.counted.2 hlt' (h.old p hp).2⟩
  refine ⟨?_, ?_, ?_, ⟨hf, hg⟩, Nat.succ_le_succ h.fewer⟩
  · intro id id' hp
    simp only [Foundry.cast, Monospace.size?_insert]
    rcases List.mem_cons.mp hp with heq | hp
    · obtain ⟨rfl, rfl⟩ := Prod.mk.inj heq
      simp
    · rw [if_neg (hnew _ hp).1, if_neg (hnew _ hp).2]
      exact h.sizes id id' hp
  · intro p hp q hq
    rcases List.mem_cons.mp hp with rfl | hp <;> rcases List.mem_cons.mp hq with rfl | hq
    · simp
    · simp [(hnew q hq).1.symm, (hnew q hq).2.symm]
    · simp [(hnew p hp).1, (hnew p hp).2]
    · exact h.oneToOne p hp q hq
  · intro p hp
    rcases List.mem_cons.mp hp with rfl | hp
    · exact ⟨Nat.le_of_eq hf, Nat.le_of_eq hg⟩
    · exact ⟨Nat.le_succ_of_le (h.old p hp).1, Nat.le_succ_of_le (h.old p hp).2⟩

theorem Beside.cast (h : Beside start kept names f) (hc : f.backend.lastId.toNat = f.made)
    (hlt : f.made + 1 < UInt32.size) (size : α) :
    Beside start kept ((f.nextId, id') :: names) (f.cast size) := by
  have hnew : ∀ id, kept id → id ≠ f.nextId := fun id hk =>
    Foundry.ne_nextId hc hlt (Nat.le_trans (h.old id hk) h.risen)
  refine ⟨Nat.le_succ_of_le h.risen, h.old, fun id hk => ?_, fun id id' hk hp => ?_⟩
  · have hu := h.untouched id hk
    unfold Monospace.size? at hu
    simp only [Foundry.cast, Monospace.size?_insert, if_neg (hnew id hk)]
    exact hu
  · rcases List.mem_cons.mp hp with heq | hp
    · exact hnew id hk (Prod.mk.inj heq).1
    · exact h.apart id id' hk hp

/-- A user of a shared backend and the same user on a backend of its own. -/
def Shares (start : Foundry α) (kept : UInt32 → Prop) (names : Names) (f g : Foundry α) : Prop :=
  Mirrored names f g ∧ Beside start kept names f

variable {font font' : FontHandle}

theorem Shares.agree_destroyFont (hl : names.Link font font') :
    Agree (Shares start kept names) (Foundry.onBackend (Monospace.destroyFont font))
      (Foundry.onBackend (Monospace.destroyFont font')) := by
  rintro f g ⟨hm, hb⟩
  have hsize := hm.sizes _ _ hl.1
  refine Foundry.ends_destroyFont.mpr ?_
  cases hs : f.backend.size? font.id with
  | none =>
    refine Foundry.ends_destroyFont.mpr ?_
    rw [← hsize, hs]
    exact .inl ⟨rfl, hm, hb⟩
  | some size =>
    refine Foundry.ends_destroyFont.mpr ?_
    rw [← hsize, hs]
    exact .inl ⟨rfl, hm.erase hl.1, hb.erase hl.1⟩

theorem Shares.agree_measureText [Scalar α] (hl : names.Link font font') (text : String) :
    Agree (Shares start kept names) (Foundry.onBackend (Monospace.measureText font text))
      (Foundry.onBackend (Monospace.measureText font' text)) := by
  rintro f g ⟨hm, hb⟩
  have hsize := hm.sizes _ _ hl.1
  refine Foundry.ends_measureText.mpr ?_
  cases hs : f.backend.size? font.id
  all_goals
    refine Foundry.ends_measureText.mpr ?_
    rw [← hsize, hs]
    exact .inl ⟨rfl, hm, hb⟩

end Fonts

end Widgetry
