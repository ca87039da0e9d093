import Widgetry.Scalar

/-! Zeros of both signs stand for one number. Sums and differences do not tell them apart, and
adding a zero changes nothing else. -/
namespace Widgetry

/-- The same number. Zeros are, whatever their signs, and so is NaN. -/
def Alike {α : Type} [BEq α] (x y : α) : Prop := x = y ∨ (x == y) = true

namespace Binary

variable {f : Format} {x y z : Binary f}

theorem alike_iff : Alike x y ↔ x = y ∨ ∃ s t, x = zero s ∧ y = zero t := by
  constructor
  · rintro (h | h)
    · exact .inl h
    change x.eq y = true at h
    rcases x with _ | s | ⟨s, a, ha⟩ <;> rcases y with _ | t | ⟨t, b, hb⟩
    all_goals simp only [eq, reduceCtorEq, beq_iff_eq, decide_eq_true_eq] at h
    · exact .inl (congrArg infinite h)
    · by_cases hst : s = t
      · subst hst
        have hab : a = b := by cases s <;> simp only [signed] at h <;> grind
        subst hab
        exact .inl rfl
      · have hab : a = 0 ∧ b = 0 := by
          cases s <;> cases t <;> simp only [signed] at h <;> grind
        obtain ⟨rfl, rfl⟩ := hab
        exact .inr ⟨s, t, rfl, rfl⟩
  · rintro (h | ⟨s, t, rfl, rfl⟩)
    · exact .inl h
    · exact .inr (by cases s <;> cases t <;> rfl)

theorem add_comm (x y : Binary f) : x + y = y + x := by
  change x.add y = y.add x
  rcases x with _ | s | ⟨s, a, ha⟩ <;> rcases y with _ | t | ⟨t, b, hb⟩
  all_goals simp only [add]
  · by_cases hst : s = t
    · simp [hst]
    · simp [hst, Ne.symm hst]
  · rw [Int.add_comm, Bool.and_comm]

theorem alike_add_zero (x : Binary f) (s : Bool) : Alike (x + zero s) x := by
  change Alike (x.add (zero s)) x
  rcases x with _ | t | ⟨t, a, ha⟩
  · exact .inl rfl
  · exact .inl rfl
  have hsum : signed t a + signed s 0 = signed t a := by cases s <;> simp [signed]
  simp only [add, zero, hsum]
  split
  next hzero =>
    have ha0 : a = 0 := by cases t <;> simpa [signed] using hzero
    subst ha0
    exact alike_iff.mpr (.inr ⟨_, t, rfl, rfl⟩)
  next hzero =>
    have hneg : decide (signed t a < 0) = t := by
      cases t <;> simp_all [signed]
      omega
    have habs : (signed t a).natAbs = a * 1 := by cases t <;> simp [signed]
    rw [hneg, habs, ofSteps_exact ha t 1 Nat.one_pos]
    exact .inl rfl

theorem alike_sub_zero (x : Binary f) : Alike (x - zero false) x := alike_add_zero x true

theorem lt_asymm (h : x < y) : ¬y < x := by
  change ¬y.lt x = true
  change x.lt y = true at h
  rcases x with _ | s | ⟨s, a, ha⟩ <;> rcases y with _ | t | ⟨t, b, hb⟩
  all_goals simp_all [lt]
  omega

theorem le_of_lt (h : x < y) : x ≤ y := by
  change (x.lt y || x.eq y) = true
  rw [show x.lt y = true from h]
  rfl

theorem min_eq_or (x y : Binary f) : Min.min x y = x ∨ Min.min x y = y := by
  change x.min y = x ∨ x.min y = y
  unfold Binary.min
  split
  · exact .inr rfl
  · split
    · exact .inr rfl
    · exact .inl rfl

end Binary

namespace Alike

variable {f : Format} {x y z : Binary f}

theorem symm (h : Alike x y) : Alike y x := by
  rw [Binary.alike_iff] at h ⊢
  rcases h with rfl | ⟨s, t, hx, hy⟩
  · exact .inl rfl
  · exact .inr ⟨t, s, hy, hx⟩

theorem trans (h : Alike x y) (h' : Alike y z) : Alike x z := by
  rw [Binary.alike_iff] at h h' ⊢
  rcases h with rfl | ⟨s, t, hx, rfl⟩
  · exact h'
  · rcases h' with rfl | ⟨-, u, -, hz⟩
    · exact .inr ⟨s, t, hx, rfl⟩
    · exact .inr ⟨s, u, hx, hz⟩

theorem add_left (h : Alike x y) (c : Binary f) : Alike (c + x) (c + y) := by
  rcases Binary.alike_iff.mp h with rfl | ⟨s, t, rfl, rfl⟩
  · exact .inl rfl
  · exact (Binary.alike_add_zero c s).trans (Binary.alike_add_zero c t).symm

theorem sub_right (h : Alike x y) (c : Binary f) : Alike (x - c) (y - c) := by
  change Alike (x + c.neg) (y + c.neg)
  rw [Binary.add_comm x, Binary.add_comm y]
  exact h.add_left c.neg

end Alike

end Widgetry
