/-!
Binary interchange formats. A magnitude is a count of the smallest positive step, so that every
value of a format is an integer and rounding works on quotients of naturals. Main statement:
what `Format.round` gives lies on the format's grid.
-/
namespace Widgetry

/-- Powers of naturals are those of `Nat.pow` under any imports. -/
scoped instance powNat : Pow Nat Nat := instPowNat

/-- `precision` significant bits, steps of `2 ^ -scale`, magnitudes below `2 ^ top` steps. -/
structure Format where
  precision : Nat
  scale : Nat
  top : Nat
  precision_pos : 0 < precision := by decide
  precision_le_top : precision ≤ top := by decide
  deriving DecidableEq

/-- The nearest natural to `num / den`, a tie going to the even neighbour. -/
def roundDiv (num den : Nat) : Nat :=
  let q := num / den
  let r := num % den
  if 2 * r < den then q
  else if den < 2 * r then q + 1
  else if q % 2 = 0 then q else q + 1

theorem roundDiv_le (num den : Nat) : roundDiv num den ≤ num / den + 1 := by
  simp only [roundDiv]
  split
  · omega
  · split
    · omega
    · split <;> omega

theorem le_roundDiv (num den : Nat) : num / den ≤ roundDiv num den := by
  simp only [roundDiv]
  split
  · omega
  · split
    · omega
    · split <;> omega

theorem roundDiv_mul_right (q den : Nat) (h : 0 < den) : roundDiv (q * den) den = q := by
  simp [roundDiv, Nat.mul_div_cancel _ h, h]

namespace Format

def binary32 : Format := ⟨24, 149, 277, by decide, by decide⟩

def binary64 : Format := ⟨53, 1074, 2098, by decide, by decide⟩

variable (f : Format)

/-- Exponent of the step between neighbours of `n`. -/
def grid (n : Nat) : Nat := n.log2 + 1 - f.precision

/-- On the grid, hence with at most `precision` significant bits. -/
def Exact (n : Nat) : Prop := 2 ^ f.grid n ∣ n

/-- In range and on the grid. -/
def Fits (n : Nat) : Prop := n < 2 ^ f.top ∧ f.Exact n

instance (n : Nat) : Decidable (f.Exact n) := inferInstanceAs (Decidable (_ ∣ _))

instance (n : Nat) : Decidable (f.Fits n) := inferInstanceAs (Decidable (_ ∧ _))

/-- `num / den` rounded to the grid, ties to even; the range is not yet limited. -/
def round (num den : Nat) : Nat :=
  let k := f.grid (num / den)
  roundDiv num (den * 2 ^ k) * 2 ^ k

variable {f}

theorem log2_lt_of_lt {n k : Nat} (h : n < 2 ^ k) (hk : 0 < k) : n.log2 < k := by
  by_cases hn : n = 0
  · simpa [hn] using hk
  · exact (Nat.log2_lt hn).mpr h

theorem exact_mul_pow {n : Nat} (h : n < 2 ^ f.precision) (k : Nat) : f.Exact (n * 2 ^ k) := by
  have hlt : n * 2 ^ k < 2 ^ (f.precision + k) := by
    rw [Nat.pow_add]
    exact Nat.mul_lt_mul_of_pos_right h (Nat.two_pow_pos k)
  have hlog := log2_lt_of_lt hlt (by have := f.precision_pos; omega)
  exact Nat.dvd_trans (Nat.pow_dvd_pow 2 (by simp only [grid]; omega)) (Nat.dvd_mul_left _ _)

theorem exact_pow_mul_pow (k : Nat) : f.Exact (2 ^ f.precision * 2 ^ k) := by
  have h : 2 ^ f.precision * 2 ^ k = 2 ^ (f.precision - 1) * 2 ^ (k + 1) := by
    have := f.precision_pos
    rw [← Nat.pow_add, ← Nat.pow_add]
    congr 1
    omega
  rw [h]
  exact exact_mul_pow (Nat.pow_lt_pow_right (by decide) (by have := f.precision_pos; omega)) _

theorem exact_of_le {n : Nat} (h : n ≤ 2 ^ f.precision) (k : Nat) : f.Exact (n * 2 ^ k) := by
  rcases Nat.lt_or_eq_of_le h with h | rfl
  · exact exact_mul_pow h k
  · exact exact_pow_mul_pow k

theorem div_grid_lt (n : Nat) : n / 2 ^ f.grid n < 2 ^ f.precision := by
  rw [Nat.div_lt_iff_lt_mul (Nat.two_pow_pos _), ← Nat.pow_add]
  exact Nat.lt_of_lt_of_le Nat.lt_log2_self
    (Nat.pow_le_pow_right (by decide) (by simp only [grid]; omega))

theorem exact_round (num den : Nat) : f.Exact (f.round num den) := by
  apply exact_of_le
  refine Nat.le_trans (roundDiv_le _ _) ?_
  rw [← Nat.div_div_eq_div_mul]
  exact div_grid_lt _

theorem round_exact {n : Nat} (h : f.Exact n) (den : Nat) (hd : 0 < den) :
    f.round (n * den) den = n := by
  obtain ⟨q, hq⟩ := h
  simp only [round, Nat.mul_div_cancel _ hd]
  have : n * den = q * (den * 2 ^ f.grid n) := by
    conv => lhs; rw [hq]
    simp [Nat.mul_comm, Nat.mul_left_comm]
  rw [this, roundDiv_mul_right _ _ (Nat.mul_pos hd (Nat.two_pow_pos _)), Nat.mul_comm, ← hq]

theorem fits_zero : f.Fits 0 := ⟨Nat.two_pow_pos _, Nat.dvd_zero _⟩

end Format

end Widgetry
