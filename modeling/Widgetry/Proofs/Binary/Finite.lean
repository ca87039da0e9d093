import Widgetry.Proofs.Binary.Sign

/-! How far sums and products go. A sum of what is not below zero is not below its terms, and where
it does not rise it is the term it began with. What is finite and small stays finite, and a finite
number spoils no other. -/
namespace Widgetry

namespace Binary

variable {f : Format} {x y : Binary f}

inductive IsFinite : Binary f → Prop
  | finite {s : Bool} {mag : Nat} {fits : f.Fits mag} : IsFinite (finite s mag fits)

instance decidableIsFinite : (x : Binary f) → Decidable x.IsFinite
  | nan | infinite _ => .isFalse nofun
  | finite _ _ _ => .isTrue .finite

/-- Finite, and no larger than `2 ^ k`. -/
inductive Within (k : Nat) : Binary f → Prop
  | finite {s : Bool} {mag : Nat} {fits : f.Fits mag} (le : mag ≤ 2 ^ (f.scale + k)) :
      Within k (finite s mag fits)

instance decidableWithin (k : Nat) : (x : Binary f) → Decidable (Within k x)
  | nan | infinite _ => .isFalse nofun
  | finite _ mag _ =>
    decidable_of_iff (mag ≤ 2 ^ (f.scale + k)) ⟨.finite, fun h => by cases h; assumption⟩

/-- A number, infinite or not, that is not below zero. -/
structure Amount (x : Binary f) : Prop where
  number : ¬x.isNaN = true
  nonNeg : x.NonNeg

theorem beq_self (h : ¬x.isNaN = true) : (x == x) = true := by
  change x.eq x = true
  cases x <;> simp_all [eq, isNaN]

theorem beq_of_isNaN (h : x.isNaN = true) (y : Binary f) : (x == y) = false := by
  change x.eq y = false
  cases x <;> simp_all [eq, isNaN]

theorem IsFinite.not_isNaN (h : x.IsFinite) : ¬x.isNaN = true := by
  cases h
  exact Bool.false_ne_true

theorem Within.isFinite {k : Nat} (h : Within k x) : x.IsFinite := by
  cases h
  exact .finite

theorem Within.mono {j k : Nat} (h : Within j x) (hjk : j ≤ k) : Within k x := by
  cases h with
  | finite le => exact .finite (le.trans (Nat.pow_le_pow_right Nat.two_pos (by omega)))

theorem not_isNaN_ofSteps (s : Bool) (num den : Nat) :
    ¬(ofSteps s num den : Binary f).isNaN = true := by
  unfold ofSteps
  dsimp only
  split
  · exact Bool.false_ne_true
  · exact Bool.false_ne_true

/-- What is finite turns no number it is added to into NaN. -/
theorem IsFinite.not_isNaN_add (hx : x.IsFinite) (hy : ¬y.isNaN = true) :
    ¬(x + y).isNaN = true := by
  change ¬(x.add y).isNaN = true
  obtain ⟨s, a, ha⟩ := hx
  rcases y with _ | t | ⟨t, b, hb⟩
  · exact (hy rfl).elim
  · exact Bool.false_ne_true
  · simp only [add]
    split
    · exact Bool.false_ne_true
    · exact not_isNaN_ofSteps _ _ _

theorem IsFinite.not_isNaN_mul (hx : x.IsFinite) (hy : y.IsFinite) : ¬(x * y).isNaN = true := by
  cases hx
  cases hy
  exact not_isNaN_ofSteps _ _ _

/-- A difference that is a number is one of two numbers. -/
theorem not_isNaN_of_sub (h : ¬(x - y).isNaN = true) : ¬x.isNaN = true := by
  rcases x with _ | s | ⟨s, a, ha⟩
  · exact (h rfl).elim
  · exact Bool.false_ne_true
  · exact Bool.false_ne_true

theorem within_ofSteps {k num den : Nat} (hden : 0 < den) (hk : f.scale + k < f.top)
    (h : num ≤ 2 ^ (f.scale + k) * den) (s : Bool) : Within k (ofSteps s num den : Binary f) := by
  have hle : f.round num den ≤ 2 ^ (f.scale + k) :=
    Format.round_le (Format.exact_two_pow _) hden h
  have hlt : f.round num den < 2 ^ f.top :=
    hle.trans_lt (Nat.pow_lt_pow_right Nat.one_lt_two hk)
  unfold ofSteps
  rw [dif_pos hlt]
  exact .finite hle

theorem Within.neg {k : Nat} (h : Within k x) : Within k x.neg := by
  cases h with
  | finite le => exact .finite le

theorem Within.add {k : Nat} (hx : Within k x) (hy : Within k y) (hk : f.scale + (k + 1) < f.top) :
    Within (k + 1) (x + y) := by
  change Within (k + 1) (x.add y)
  obtain @⟨s, a, ha, hale⟩ := hx
  obtain @⟨t, b, hb, hble⟩ := hy
  have hsum : (signed s a + signed t b).natAbs ≤ 2 ^ (f.scale + (k + 1)) * 1 := by
    have hab : (signed s a + signed t b).natAbs ≤ a + b := by
      refine (Int.natAbs_add_le _ _).trans ?_
      cases s <;> cases t <;> simp [signed]
    rw [Nat.mul_one, ← Nat.add_assoc, Nat.pow_succ]
    omega
  simp only [Binary.add]
  split
  · exact .finite (Nat.zero_le _)
  · exact within_ofSteps Nat.one_pos hk hsum _

theorem Within.sub {k : Nat} (hx : Within k x) (hy : Within k y) (hk : f.scale + (k + 1) < f.top) :
    Within (k + 1) (x - y) := hx.add hy.neg hk

theorem Within.mul {j k : Nat} (hx : Within j x) (hy : Within k y)
    (hk : f.scale + (j + k) < f.top) : Within (j + k) (x * y) := by
  obtain @⟨s, a, ha, hale⟩ := hx
  obtain @⟨t, b, hb, hble⟩ := hy
  refine within_ofSteps (Nat.two_pow_pos _) hk ?_ _
  calc a * b ≤ 2 ^ (f.scale + j) * 2 ^ (f.scale + k) := Nat.mul_le_mul hale hble
    _ = 2 ^ (f.scale + (j + k)) * 2 ^ f.scale := by
      rw [← Nat.pow_add, ← Nat.pow_add]
      congr 1
      omega

/-- Where a number lies among those that are not below zero. -/
def rank : Binary f → Nat
  | nan => 0
  | infinite _ => 2 ^ f.top
  | finite _ mag _ => mag

theorem rank_le (x : Binary f) : x.rank ≤ 2 ^ f.top := by
  rcases x with _ | s | ⟨s, a, ha⟩
  · exact Nat.zero_le _
  · exact Nat.le_refl _
  · exact ha.1.le

theorem le_rank_ofSteps {mag num : Nat} (hmag : f.Fits mag) (h : mag ≤ num) :
    mag ≤ (ofSteps false num 1 : Binary f).rank := by
  have hround : mag ≤ f.round num 1 := Format.le_round hmag.2 Nat.one_pos (by omega)
  unfold ofSteps
  dsimp only
  split
  · exact hround
  · exact hmag.1.le

namespace Amount

theorem signed_eq {s : Bool} {mag : Nat} {fits : f.Fits mag} (h : (finite s mag fits).Amount) :
    signed s mag = mag := by
  rcases nonNeg_finite.mp h.nonNeg with rfl | rfl
  · rfl
  · cases s <;> rfl

theorem add (hx : x.Amount) (hy : y.Amount) : (x + y).Amount := by
  refine ⟨?_, hx.nonNeg.add hy.nonNeg⟩
  obtain ⟨hxn, hxs⟩ := hx
  rcases x with _ | s | ⟨s, a, ha⟩
  · exact (hxn rfl).elim
  · obtain rfl := nonNeg_infinite.mp hxs
    rcases y with _ | t | ⟨t, b, hb⟩
    · exact (hy.number rfl).elim
    · obtain rfl := nonNeg_infinite.mp hy.nonNeg
      exact Bool.false_ne_true
    · exact Bool.false_ne_true
  · exact IsFinite.finite.not_isNaN_add hy.number

theorem le_refl (hx : x.Amount) : x ≤ x :=
  le_of_not_lt hx.number hx.number fun h => lt_asymm h h

theorem lt_of_not_le (hx : x.Amount) (hy : y.Amount) (h : ¬y ≤ x) : x < y := by
  by_contra hlt
  exact h (le_of_not_lt hy.number hx.number hlt)

theorem min (hx : x.Amount) (hy : y.Amount) : (Min.min x y).Amount := by
  rcases min_eq_or x y with h | h
  · rwa [h]
  · rwa [h]

/-- The sum of two magnitudes, rounded once. -/
theorem finite_add {s t : Bool} {a b : Nat} {ha : f.Fits a} {hb : f.Fits b}
    (hx : (finite s a ha).Amount) (hy : (finite t b hb).Amount) (hsum : a + b ≠ 0) :
    (finite s a ha + finite t b hb : Binary f) = ofSteps false (a + b) 1 := by
  change (finite s a ha).add (finite t b hb) = _
  simp only [Binary.add, hx.signed_eq, hy.signed_eq]
  rw [if_neg (by omega), ← Int.natCast_add, Int.natAbs_natCast, decide_eq_false (by omega)]

/-- A sum that does not rise above its first term is that term. -/
theorem add_eq_of_rank_le (hx : x.Amount) (hy : y.Amount) (hpos : y.rank ≠ 0)
    (h : (x + y).rank ≤ x.rank) : x + y = x := by
  rcases x with _ | s | ⟨s, a, ha⟩
  · exact (hx.number rfl).elim
  · obtain rfl := nonNeg_infinite.mp hx.nonNeg
    rcases y with _ | t | ⟨t, b, hb⟩
    · exact (hy.number rfl).elim
    · obtain rfl := nonNeg_infinite.mp hy.nonNeg
      rfl
    · rfl
  rcases y with _ | t | ⟨t, b, hb⟩
  · exact (hy.number rfl).elim
  · exact (Nat.not_le.mpr ha.1 h).elim
  have hb0 : b ≠ 0 := hpos
  rw [finite_add hx hy (by omega)] at h ⊢
  have hlow := le_rank_ofSteps ha (Nat.le_add_right a b)
  have hraised := le_rank_ofSteps hb (Nat.le_add_left b a)
  have heq : (ofSteps false (a + b) 1 : Binary f).rank = a := Nat.le_antisymm h hlow
  have hs : s = false := (nonNeg_finite.mp hx.nonNeg).resolve_right (by omega)
  unfold ofSteps at heq ⊢
  dsimp only at heq ⊢
  split at heq
  next hlt =>
    have hmag : f.round (a + b) 1 = a := heq
    rw [dif_pos hlt]
    simp only [hmag, hs]
  · exact (Nat.lt_irrefl _ (heq ▸ ha.1)).elim

end Amount

theorem not_isNaN_of_lt (h : x < y) : ¬y.isNaN = true := by
  change x.lt y = true at h
  rcases y with _ | t | ⟨t, b, hb⟩
  · cases x <;> exact (Bool.false_ne_true h).elim
  · exact Bool.false_ne_true
  · exact Bool.false_ne_true

/-- What is below another number is finite, and that other number is not zero. -/
theorem isFinite_of_lt (hx : x.NonNeg) (h : x < y) : x.IsFinite ∧ y.rank ≠ 0 := by
  change x.lt y = true at h
  rcases x with _ | s | ⟨s, a, ha⟩
  · exact (Bool.false_ne_true h).elim
  · obtain rfl := nonNeg_infinite.mp hx
    cases y <;> exact (Bool.false_ne_true h).elim
  refine ⟨.finite, ?_⟩
  rcases y with _ | t | ⟨t, b, hb⟩
  · exact (Bool.false_ne_true h).elim
  · exact (Nat.two_pow_pos _).ne'
  · have hlt : signed s a < signed t b := of_decide_eq_true h
    have hle := hx.signed_nonneg
    rintro (rfl : b = 0)
    have hzero : signed t 0 = 0 := by cases t <;> rfl
    omega

theorem IsFinite.not_isNaN_div (hx : x.IsFinite) (hy : ¬y.isNaN = true) (hpos : y.rank ≠ 0) :
    ¬(x / y).isNaN = true := by
  change ¬(x.div y).isNaN = true
  obtain ⟨s, a, ha⟩ := hx
  rcases y with _ | t | ⟨t, b, hb⟩
  · exact (hy rfl).elim
  · exact Bool.false_ne_true
  · have hb0 : b ≠ 0 := hpos
    simp only [div, if_neg hb0]
    exact not_isNaN_ofSteps _ _ _

end Binary

end Widgetry
