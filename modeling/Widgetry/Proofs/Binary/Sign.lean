import Widgetry.Proofs.Binary.Alike
import Widgetry.Proofs.Binary.Rounding
import Widgetry.Proofs.Sheet.Gate

/-! What is never below zero. Sums and products of numbers that are not below zero are not either,
whatever is rounded, infinite or NaN on the way. -/
namespace Widgetry

theorem Format.round_zero {f : Format} (den : Nat) : f.round 0 den = 0 := by
  rw [round, roundDiv]
  simp

namespace Binary

variable {f : Format} {x y : Binary f}

/-- Not below zero; NaN is not. -/
inductive NonNeg : Binary f → Prop
  | nan : NonNeg nan
  | infinite : NonNeg (infinite false)
  | positive {mag : Nat} {fits : f.Fits mag} : NonNeg (finite false mag fits)
  | zero {s : Bool} {fits : f.Fits 0} : NonNeg (finite s 0 fits)

theorem nonNeg_infinite {s : Bool} : (infinite s : Binary f).NonNeg ↔ s = false := by
  constructor
  · rintro ⟨⟩
    rfl
  · rintro rfl
    exact .infinite

theorem nonNeg_finite {s : Bool} {mag : Nat} {fits : f.Fits mag} :
    (finite s mag fits).NonNeg ↔ s = false ∨ mag = 0 := by
  constructor
  · rintro ⟨⟩
    · exact .inl rfl
    · exact .inr rfl
  · rintro (rfl | rfl)
    · exact .positive
    · exact .zero

theorem NonNeg.signed_nonneg {s : Bool} {mag : Nat} {fits : f.Fits mag}
    (h : (finite s mag fits).NonNeg) : 0 ≤ signed s mag := by
  cases h with
  | positive => exact Int.natCast_nonneg _
  | zero => cases s <;> exact Int.le_refl 0

theorem nonNeg_ofSteps {s : Bool} {num : Nat} (h : s = false ∨ num = 0) (den : Nat) :
    (ofSteps s num den : Binary f).NonNeg := by
  unfold ofSteps
  rcases h with rfl | rfl
  · dsimp only
    split
    · exact .positive
    · exact .infinite
  · simp only [Format.round_zero]
    rw [dif_pos (Nat.two_pow_pos _)]
    exact .zero

/-- A sum of signed magnitudes, where it is not negative. -/
theorem nonNeg_sum {sum : Int} (h : 0 ≤ sum) (s : Bool) :
    (if sum = 0 then Binary.zero s
      else ofSteps (decide (sum < 0)) sum.natAbs 1 : Binary f).NonNeg := by
  split
  · exact .zero
  · exact nonNeg_ofSteps (.inl (decide_eq_false (Int.not_lt.mpr h))) _

theorem NonNeg.add (hx : x.NonNeg) (hy : y.NonNeg) : (x + y).NonNeg := by
  change (x.add y).NonNeg
  rcases x with _ | s | ⟨s, a, ha⟩ <;> rcases y with _ | t | ⟨t, b, hb⟩
  case infinite.infinite =>
    obtain rfl := nonNeg_infinite.mp hx
    obtain rfl := nonNeg_infinite.mp hy
    exact .infinite
  case finite.finite =>
    exact nonNeg_sum (Int.add_nonneg hx.signed_nonneg hy.signed_nonneg) _
  case infinite.finite => exact hx
  case finite.infinite => exact hy
  all_goals exact .nan

theorem NonNeg.mul (hx : x.NonNeg) (hy : y.NonNeg) : (x * y).NonNeg := by
  change (x.mul y).NonNeg
  rcases x with _ | s | ⟨s, a, ha⟩ <;> rcases y with _ | t | ⟨t, b, hb⟩
  case infinite.infinite =>
    obtain rfl := nonNeg_infinite.mp hx
    obtain rfl := nonNeg_infinite.mp hy
    exact .infinite
  case infinite.finite =>
    obtain rfl := nonNeg_infinite.mp hx
    change (if b = 0 then .nan else .infinite (false ^^ t) : Binary f).NonNeg
    split
    · exact .nan
    next hb0 =>
      obtain rfl := (nonNeg_finite.mp hy).resolve_right hb0
      exact .infinite
  case finite.infinite =>
    obtain rfl := nonNeg_infinite.mp hy
    change (if a = 0 then .nan else .infinite (s ^^ false) : Binary f).NonNeg
    split
    · exact .nan
    next ha0 =>
      obtain rfl := (nonNeg_finite.mp hx).resolve_right ha0
      exact .infinite
  case finite.finite =>
    refine nonNeg_ofSteps ?_ _
    rcases nonNeg_finite.mp hx with rfl | rfl
    · rcases nonNeg_finite.mp hy with rfl | rfl
      · exact .inl rfl
      · exact .inr (Nat.mul_zero a)
    · exact .inr (Nat.zero_mul b)
  all_goals exact .nan

/-- The divisor must not even be the zero that is signed. -/
theorem NonNeg.div (hx : x.NonNeg) (hy : y.isNegative = false) : (x / y).NonNeg := by
  change (x.div y).NonNeg
  rcases x with _ | s | ⟨s, a, ha⟩ <;> rcases y with _ | t | ⟨t, b, hb⟩
  case infinite.finite =>
    obtain rfl := nonNeg_infinite.mp hx
    obtain rfl : t = false := hy
    exact .infinite
  case finite.infinite => exact .zero
  case finite.finite =>
    obtain rfl : t = false := hy
    unfold Binary.div
    dsimp only
    split
    · split
      · exact .nan
      next ha0 =>
        obtain rfl := (nonNeg_finite.mp hx).resolve_right ha0
        exact .infinite
    · refine nonNeg_ofSteps ?_ _
      rcases nonNeg_finite.mp hx with rfl | rfl
      · exact .inl rfl
      · exact .inr (Nat.zero_mul _)
  all_goals exact .nan

theorem nonNeg_sub (h : ¬x < y) : (x - y).NonNeg := by
  change (x.add y.neg).NonNeg
  change ¬x.lt y = true at h
  rcases x with _ | s | ⟨s, a, ha⟩ <;> rcases y with _ | t | ⟨t, b, hb⟩
  case infinite.infinite =>
    change (if s = !t then .infinite s else .nan : Binary f).NonNeg
    split
    next hst =>
      subst hst
      cases t with
      | false => simp [lt] at h
      | true => exact .infinite
    · exact .nan
  case infinite.finite =>
    obtain rfl : s = false := by simpa [lt] using h
    exact .infinite
  case finite.infinite =>
    obtain rfl : t = true := by simpa [lt] using h
    exact .infinite
  case finite.finite =>
    refine nonNeg_sum ?_ _
    have hneg : signed (!t) b = -signed t b := by cases t <;> simp [signed]
    have hle : ¬signed s a < signed t b := by simpa [lt] using h
    omega
  all_goals exact .nan

theorem nonNeg_of_not_lt (h : ¬x < y) (hy : y.NonNeg) (hnan : ¬y.isNaN = true) : x.NonNeg := by
  change ¬x.lt y = true at h
  cases hy with
  | nan => exact (hnan rfl).elim
  | infinite =>
    rcases x with _ | s | ⟨s, a, ha⟩
    · exact .nan
    · exact nonNeg_infinite.mpr (by simpa [lt] using h)
    · simp [lt] at h
  | positive | zero =>
    rcases x with _ | s | ⟨s, a, ha⟩
    · exact .nan
    · exact nonNeg_infinite.mpr (by simpa [lt] using h)
    · cases s with
      | false => exact .positive
      | true =>
        simp only [lt, decide_eq_true_eq, signed] at h
        exact nonNeg_finite.mpr (.inr (by grind))

theorem nonNeg_max (hy : y.NonNeg) (hnan : ¬y.isNaN = true) : (Max.max x y).NonNeg := by
  change (x.max y).NonNeg
  unfold Binary.max
  split
  · exact hy
  split
  · exact hy
  next hlt => exact nonNeg_of_not_lt hlt hy hnan

theorem not_isNaN_max (x : Binary f) (hy : ¬y.isNaN = true) : ¬(Max.max x y).isNaN = true := by
  change ¬(x.max y).isNaN = true
  unfold Binary.max
  split
  · exact hy
  next hx =>
    split
    · exact hy
    · exact hx

theorem le_of_not_lt (hx : ¬x.isNaN = true) (hy : ¬y.isNaN = true) (h : ¬y < x) : x ≤ y := by
  change (x.lt y || x.eq y) = true
  change ¬y.lt x = true at h
  rcases x with _ | s | ⟨s, a, ha⟩ <;> rcases y with _ | t | ⟨t, b, hb⟩
  case infinite.infinite => cases s <;> cases t <;> simp_all [lt, eq]
  case infinite.finite => simp_all [lt, eq]
  case finite.infinite => simp_all [lt, eq]
  case finite.finite =>
    simp only [lt, eq, decide_eq_true_eq, Bool.or_eq_true] at h ⊢
    omega
  all_goals first | exact (hx rfl).elim | exact (hy rfl).elim

/-- NaN aside, the smaller operand is not above the other one. -/
theorem min_le_right (hx : ¬x.isNaN = true) (hy : ¬y.isNaN = true) : Min.min x y ≤ y := by
  have hirrefl : ¬y < y := fun h => Binary.lt_asymm h h
  change x.min y ≤ y
  unfold Binary.min
  rw [if_neg hx]
  split
  · exact le_of_not_lt hy hy hirrefl
  next hlt => exact le_of_not_lt hx hy hlt

theorem ofInt_natCast (n : Nat) : (ofInt n : Binary f) = ofNat n := by
  unfold ofInt ofNat
  rw [decide_eq_false (Int.not_lt.mpr (Int.natCast_nonneg n)), Int.natAbs_natCast]

theorem nonNeg_ofNat (n : Nat) : (ofNat n : Binary f).NonNeg := nonNeg_ofSteps (.inl rfl) _

theorem isNegative_ofNat (n : Nat) : (ofNat n : Binary f).isNegative = false := by
  unfold ofNat ofRatio ofSteps
  dsimp only
  split
  · rfl
  · rfl

/-- Counting goes up from one, however far it is rounded. -/
theorem not_ofNat_lt_one {n : Nat} (hn : n ≠ 0) : ¬(ofNat n : Binary f) < ofNat 1 := by
  have hone : f.round (2 ^ f.scale) 1 = 2 ^ f.scale := by
    have hround := Format.round_exact (Format.exact_two_pow (f := f) f.scale) 1 Nat.one_pos
    rwa [Nat.mul_one] at hround
  have hscale : 2 ^ f.scale * 1 ≤ n * 2 ^ f.scale := by
    rw [Nat.mul_one]
    exact Nat.le_mul_of_pos_left _ (Nat.pos_of_ne_zero hn)
  have hmag : 2 ^ f.scale ≤ f.round (n * 2 ^ f.scale) 1 :=
    Format.le_round (Format.exact_two_pow f.scale) Nat.one_pos hscale
  change ¬(ofSteps false (n * 2 ^ f.scale) 1).lt (ofSteps false (1 * 2 ^ f.scale) 1) = true
  unfold ofSteps
  simp only [Nat.one_mul, hone]
  split
  · split
    · have hle : (2 ^ f.scale : Nat) ≤ (f.round (n * 2 ^ f.scale) 1 : Int) := Int.ofNat_le.mpr hmag
      simpa [lt, Binary.signed] using hle
    next hlt hone => exact (hone (hmag.trans_lt hlt)).elim
  · split
    · simp [lt]
    · simp [lt]

end Binary

theorem not_lt_zero_iff {x : Binary32} : ¬x < 0 ↔ x.NonNeg := by
  have hzero : (0 : Binary32) = Binary.zero false := by decide +kernel
  rw [hzero]
  change ¬x.lt (.zero false) = true ↔ _
  rcases x with _ | s | ⟨s, a, ha⟩
  · exact iff_of_true Bool.false_ne_true .nan
  · rw [Binary.nonNeg_infinite]
    simp [Binary.lt, Binary.zero]
  · rw [Binary.nonNeg_finite]
    cases s <;> simp [Binary.lt, Binary.zero, Binary.signed]

theorem nonNeg_zero : (0 : Binary32).NonNeg := not_lt_zero_iff.mp (by decide +kernel)

theorem Scalar.ofNat_eq {α : Type} [Scalar α] (n : Nat) : (ofNat n : α) = ofInt n := rfl

theorem Scalar.one_eq {α : Type} [Scalar α] : (1 : α) = ofNat 1 := rfl

theorem ofInt_eq (i : Int) : (Scalar.ofInt i : Binary32) = Binary.ofInt i := rfl

theorem ofNat_eq (n : Nat) : (Scalar.ofNat n : Binary32) = Binary.ofNat n := by
  rw [Scalar.ofNat_eq, ofInt_eq, Binary.ofInt_natCast]

theorem nonNeg_count (n : Nat) : (Scalar.ofNat n : Binary32).NonNeg := by
  rw [ofNat_eq]
  exact Binary.nonNeg_ofNat n

/-- There is a gap less than there are items. -/
theorem nonNeg_gaps {n : Nat} (hn : n ≠ 0) : (Scalar.ofNat n - 1 : Binary32).NonNeg := by
  refine Binary.nonNeg_sub ?_
  rw [Scalar.one_eq, ofNat_eq, ofNat_eq]
  exact Binary.not_ofNat_lt_one hn

theorem nonNeg_div_count {x : Binary32} (hx : x.NonNeg) (n : Nat) :
    (x / Scalar.ofNat n).NonNeg := by
  rw [ofNat_eq]
  exact hx.div (Binary.isNegative_ofNat n)

end Widgetry
