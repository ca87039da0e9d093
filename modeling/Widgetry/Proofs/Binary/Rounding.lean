import Widgetry.Binary.Basic

/-! What rounds to a number: every quotient no farther from it than half a step, and below a power
of two no farther than a quarter of one. And rounding does not pass a number that lies on the grid.
-/
namespace Widgetry

theorem roundDiv_eq {num den q : Nat} (hd : 0 < den) (hlow : 2 * (q * den) ≤ 2 * num + den)
    (hhigh : 2 * num ≤ 2 * (q * den) + den)
    (htie : q % 2 = 0 ∨ 2 * (q * den) < 2 * num + den ∧ 2 * num < 2 * (q * den) + den) :
    roundDiv num den = q := by
  have hnum : num / den * den + num % den = num := Nat.div_add_mod' num den
  have hr : num % den < den := Nat.mod_lt num hd
  have hle : num / den < q + 1 := by
    refine Nat.lt_of_mul_lt_mul_right (a := den) ?_
    rw [Nat.add_mul]
    omega
  have hge : q < num / den + 2 := by
    refine Nat.lt_of_mul_lt_mul_right (a := den) ?_
    rw [Nat.add_mul]
    omega
  rcases (show q = num / den ∨ q = num / den + 1 by omega) with rfl | rfl
  · rw [roundDiv]
    split
    · rfl
    · split
      · omega
      · rw [if_pos (by omega)]
  · rw [Nat.add_mul] at hlow hhigh htie
    rw [roundDiv]
    split
    · omega
    · split
      · rfl
      · rw [if_neg (by omega)]

theorem roundDiv_mul_mul_right {c : Nat} (hc : 0 < c) (num den : Nat) :
    roundDiv (num * c) (den * c) = roundDiv num den := by
  have hdiv : num * c / (den * c) = num / den := Nat.mul_div_mul_right num den hc
  have hmod : num * c % (den * c) = num % den * c := Nat.mul_mod_mul_right c num den
  have hlt {a b : Nat} : a * c < b * c ↔ a < b := Nat.mul_lt_mul_right hc
  simp only [roundDiv, hdiv, hmod, ← Nat.mul_assoc, hlt]

/-- A natural bound on a quotient is one on what it rounds to. -/
theorem roundDiv_le_of_le {num den q : Nat} (hden : 0 < den) (h : num ≤ q * den) :
    roundDiv num den ≤ q := by
  have hnum : num / den * den + num % den = num := Nat.div_add_mod' num den
  have hle : num / den ≤ q := Nat.div_le_of_le_mul (by rwa [Nat.mul_comm] at h)
  rcases Nat.lt_or_eq_of_le hle with hlt | rfl
  · exact Nat.le_trans (roundDiv_le num den) hlt
  · have hzero : num % den = 0 := by omega
    simp [roundDiv, hzero, hden]

namespace Format

variable {f : Format} {mag num den : Nat}

theorem round_mul_right {c : Nat} (hc : 0 < c) (num den : Nat) :
    f.round (num * c) (den * c) = f.round num den := by
  have hdiv : num * c / (den * c) = num / den := Nat.mul_div_mul_right num den hc
  have hden (k : Nat) : den * c * 2 ^ k = den * 2 ^ k * c := Nat.mul_right_comm den c _
  simp only [round, hdiv, hden, roundDiv_mul_mul_right hc]

theorem log2_mono {a b : Nat} (h : a ≤ b) : a.log2 ≤ b.log2 := by
  by_cases ha : a = 0
  · simp [ha]
  · exact (Nat.le_log2 (by omega)).mpr (Nat.le_trans (Nat.log2_self_le ha) h)

theorem grid_mono {a b : Nat} (h : a ≤ b) : f.grid a ≤ f.grid b := by
  have := log2_mono h
  simp only [grid]
  omega

/-- With the highest bit at a place, the grid is as many places below as the format has bits. -/
theorem grid_eq {n k : Nat} (hlow : 2 ^ (f.precision - 1) * 2 ^ k ≤ n)
    (hhigh : n < 2 ^ f.precision * 2 ^ k) : f.grid n = k := by
  have hp := f.precision_pos
  rw [← Nat.pow_add] at hlow hhigh
  have hpos : 0 < n := Nat.lt_of_lt_of_le (Nat.two_pow_pos _) hlow
  have hlog : n.log2 = f.precision - 1 + k := by
    rw [Nat.log2_eq_iff (by omega)]
    refine ⟨hlow, Nat.lt_of_lt_of_eq hhigh ?_⟩
    congr 1
    omega
  simp only [grid]
  omega

/-- A number above the lowest grid has all its bits. -/
theorem full_of_grid {n : Nat} (h : f.grid n ≠ 0) :
    2 ^ (f.precision - 1) * 2 ^ f.grid n ≤ n ∧ n < 2 ^ f.precision * 2 ^ f.grid n := by
  have hp := f.precision_pos
  have hn : n ≠ 0 := by
    rintro rfl
    simp only [grid, Nat.log2_zero] at h
    omega
  rw [← Nat.pow_add, ← Nat.pow_add]
  constructor
  · refine Nat.le_trans (Nat.pow_le_pow_right (by decide) ?_) (Nat.log2_self_le hn)
    simp only [grid] at h ⊢
    omega
  · refine Nat.lt_of_lt_of_le Nat.lt_log2_self (Nat.pow_le_pow_right (by decide) ?_)
    simp only [grid] at h ⊢
    omega

theorem exact_two_pow (k : Nat) : f.Exact (2 ^ k) := by
  have h : f.Exact (1 * 2 ^ k) := exact_of_le Nat.one_le_two_pow k
  rwa [Nat.one_mul] at h

/-- What is left of a number on its grid has its leading bit. -/
theorem two_pow_log2_le_floor {n : Nat} (hn : n ≠ 0) :
    2 ^ n.log2 ≤ n / 2 ^ f.grid n * 2 ^ f.grid n := by
  have hk : f.grid n ≤ n.log2 := by
    have := f.precision_pos
    simp only [grid]
    omega
  have hle : 2 ^ (n.log2 - f.grid n) ≤ n / 2 ^ f.grid n := by
    rw [Nat.le_div_iff_mul_le (Nat.two_pow_pos _), ← Nat.pow_add, Nat.sub_add_cancel hk]
    exact Nat.log2_self_le hn
  calc 2 ^ n.log2 = 2 ^ (n.log2 - f.grid n) * 2 ^ f.grid n := by
        rw [← Nat.pow_add, Nat.sub_add_cancel hk]
    _ ≤ n / 2 ^ f.grid n * 2 ^ f.grid n := Nat.mul_le_mul_right _ hle

theorem le_round (hmag : f.Exact mag) (hden : 0 < den) (h : mag * den ≤ num) :
    mag ≤ f.round num den := by
  have hq : mag ≤ num / den := (Nat.le_div_iff_mul_le hden).mpr h
  have hfloor : num / den / 2 ^ f.grid (num / den) * 2 ^ f.grid (num / den) ≤ f.round num den := by
    rw [Nat.div_div_eq_div_mul]
    exact Nat.mul_le_mul_right _ (le_roundDiv _ _)
  refine Nat.le_trans ?_ hfloor
  generalize num / den = q at hq
  rcases Nat.lt_or_eq_of_le (grid_mono (f := f) hq) with hlt | heq
  · -- On a coarser grid the leading bit alone is larger.
    have hlog : mag.log2 < q.log2 := by
      simp only [grid] at hlt
      omega
    have hq0 : q ≠ 0 := by
      rintro rfl
      simp at hlog
    have hmag : mag < 2 ^ q.log2 :=
      Nat.lt_of_lt_of_le Nat.lt_log2_self (Nat.pow_le_pow_right Nat.two_pos hlog)
    exact Nat.le_trans (Nat.le_of_lt hmag) (two_pow_log2_le_floor hq0)
  · obtain ⟨c, hc⟩ := hmag
    rw [heq] at hc
    have hle : c ≤ q / 2 ^ f.grid q := by
      rw [Nat.le_div_iff_mul_le (Nat.two_pow_pos _), Nat.mul_comm, ← hc]
      exact hq
    calc mag = c * 2 ^ f.grid q := by rw [hc, Nat.mul_comm]
      _ ≤ q / 2 ^ f.grid q * 2 ^ f.grid q := Nat.mul_le_mul_right _ hle

theorem round_le (hmag : f.Exact mag) (hden : 0 < den) (h : num ≤ mag * den) :
    f.round num den ≤ mag := by
  have hq : num / den ≤ mag := Nat.div_le_of_le_mul (by rwa [Nat.mul_comm] at h)
  obtain ⟨c, hc⟩ := Nat.dvd_trans (Nat.pow_dvd_pow 2 (grid_mono (f := f) hq)) hmag
  have hround : roundDiv num (den * 2 ^ f.grid (num / den)) ≤ c := by
    refine roundDiv_le_of_le (Nat.mul_pos hden (Nat.two_pow_pos _)) (Nat.le_trans h ?_)
    refine Nat.le_of_eq ?_
    rw [hc, Nat.mul_comm _ c, Nat.mul_assoc, Nat.mul_comm den]
  calc f.round num den ≤ c * 2 ^ f.grid (num / den) := Nat.mul_le_mul_right _ hround
    _ = mag := by rw [hc, Nat.mul_comm]

/-- A power of two whose lower neighbour is nearer than the upper one. -/
def Narrow (f : Format) (mag : Nat) : Prop :=
  f.grid mag ≠ 0 ∧ mag = 2 ^ f.grid mag * 2 ^ (f.precision - 1)

instance (f : Format) (mag : Nat) : Decidable (f.Narrow mag) := inferInstanceAs (Decidable (_ ∧ _))

/-- Twice the distance to the point below which the lower neighbour is nearer. -/
def reach (f : Format) (mag : Nat) : Nat :=
  if f.Narrow mag then 2 ^ f.grid mag else 2 * 2 ^ f.grid mag

theorem two_pow_precision : 2 ^ f.precision = 2 * 2 ^ (f.precision - 1) := by
  rw [← Nat.pow_succ']
  congr 1
  have := f.precision_pos
  omega

/-- The next number up is no farther than the next power of two. -/
theorem add_step_le (hexact : f.Exact mag) (hk : f.grid mag ≠ 0) :
    mag + 2 ^ f.grid mag ≤ 2 * (2 ^ (f.precision - 1) * 2 ^ f.grid mag) := by
  have htop := (full_of_grid hk).2
  rw [two_pow_precision, Nat.mul_assoc] at htop
  obtain ⟨m, hm⟩ := hexact
  generalize 2 ^ f.grid mag = step at hm htop ⊢
  subst hm
  rw [← Nat.mul_assoc, Nat.mul_comm _ step] at htop ⊢
  rw [← Nat.mul_succ]
  exact Nat.mul_le_mul_left step (Nat.lt_of_mul_lt_mul_left htop)

/-- Above a power of two there is room for a step down. -/
theorem step_le_of_not_narrow (hexact : f.Exact mag) (hk : f.grid mag ≠ 0) (h : ¬f.Narrow mag) :
    2 ^ (f.precision - 1) * 2 ^ f.grid mag + 2 ^ f.grid mag ≤ mag := by
  have hfull := (full_of_grid hk).1
  have hne : mag ≠ 2 ^ f.grid mag * 2 ^ (f.precision - 1) := fun heq => h ⟨hk, heq⟩
  obtain ⟨m, hm⟩ := hexact
  generalize 2 ^ f.grid mag = step at hm hfull hne ⊢
  subst hm
  rw [Nat.mul_comm _ step] at hfull ⊢
  rw [← Nat.mul_succ]
  refine Nat.mul_le_mul_left step (Nat.lt_of_mul_lt_mul_left (a := step) ?_)
  exact Nat.lt_of_le_of_ne hfull (Ne.symm hne)

/-- Just below a power of two the grid is finer. -/
theorem grid_near {n : Nat} (hexact : f.Exact mag) (hlow : 4 * mag < 4 * n + 4 + f.reach mag)
    (hhigh : 4 * n ≤ 4 * mag + 2 * 2 ^ f.grid mag) :
    f.grid n = f.grid mag ∨ f.Narrow mag ∧ f.grid n + 1 = f.grid mag ∧ n < mag := by
  by_cases hk : f.grid mag = 0
  · rw [hk] at hhigh
    have hgrid := grid_mono (f := f) (show n ≤ mag by omega)
    left
    omega
  have hstep : 0 < 2 ^ f.grid mag := Nat.two_pow_pos _
  have hmax := add_step_le hexact hk
  have hnhigh : n < 2 ^ f.precision * 2 ^ f.grid mag := by
    rw [two_pow_precision, Nat.mul_assoc]
    omega
  by_cases hnarrow : f.Narrow mag
  · by_cases hn : n < mag
    · right
      obtain ⟨k, hkk⟩ : ∃ k, f.grid mag = k + 1 := Nat.exists_eq_succ_of_ne_zero hk
      have hmag := hnarrow.2
      have hfull : 0 < 2 ^ (f.precision - 1) := Nat.two_pow_pos _
      rw [reach, if_pos hnarrow] at hlow
      rw [hkk, Nat.pow_succ] at hlow hmag
      refine ⟨hnarrow, ?_, hn⟩
      rw [grid_eq (k := k), hkk]
      · have hhalf : 2 ^ k ≤ 2 ^ (f.precision - 1) * 2 ^ k := Nat.le_mul_of_pos_left _ hfull
        rw [Nat.mul_right_comm, Nat.mul_comm (2 ^ k)] at hmag
        omega
      · rw [two_pow_precision, Nat.mul_assoc, Nat.mul_comm _ (2 ^ k)]
        rw [Nat.mul_right_comm] at hmag
        omega
    · left
      exact grid_eq (Nat.le_trans (full_of_grid hk).1 (by omega)) hnhigh
  · left
    have hmin := step_le_of_not_narrow hexact hk hnarrow
    rw [reach, if_neg hnarrow] at hlow
    exact grid_eq (by omega) hnhigh

theorem reach_le (f : Format) (mag : Nat) : f.reach mag ≤ 2 * 2 ^ f.grid mag := by
  rw [reach]
  split <;> omega

/-- On a grid, a number is the nearest one to all that is within half a step. -/
theorem roundDiv_mul_pow {q k : Nat} (hmag : q * 2 ^ k = mag) (hden : 0 < den)
    (hlow : 2 * (mag * den) ≤ 2 * num + 2 ^ k * den)
    (hhigh : 2 * num ≤ 2 * (mag * den) + 2 ^ k * den)
    (htie : q % 2 = 0 ∨
      2 * (mag * den) < 2 * num + 2 ^ k * den ∧ 2 * num < 2 * (mag * den) + 2 ^ k * den) :
    roundDiv num (den * 2 ^ k) * 2 ^ k = mag := by
  have hq : q * (den * 2 ^ k) = mag * den := by
    rw [Nat.mul_comm den, ← Nat.mul_assoc, hmag]
  rw [roundDiv_eq (q := q) (Nat.mul_pos hden (Nat.two_pow_pos k)), hmag]
  all_goals
    rw [hq, Nat.mul_comm den]
    assumption

/-- The two half-way points belong to the number if its last bit is even. -/
theorem round_near (hexact : f.Exact mag) (hden : 0 < den)
    (hlow : 4 * (mag * den) ≤ 4 * num + f.reach mag * den)
    (hhigh : 4 * num ≤ 4 * (mag * den) + 2 * (2 ^ f.grid mag * den))
    (htie : mag / 2 ^ f.grid mag % 2 = 0 ∨ 4 * (mag * den) < 4 * num + f.reach mag * den ∧
      4 * num < 4 * (mag * den) + 2 * (2 ^ f.grid mag * den)) :
    f.round num den = mag := by
  have hn : num / den * den ≤ num := Nat.div_mul_le_self num den
  have hn' : num < num / den * den + den := by
    rw [← Nat.succ_mul, Nat.mul_comm]
    exact Nat.lt_mul_div_succ num hden
  have hreach : f.reach mag * den ≤ 2 * (2 ^ f.grid mag * den) := by
    rw [← Nat.mul_assoc]
    exact Nat.mul_le_mul_right den (f.reach_le mag)
  have hbelow : 4 * mag < 4 * (num / den) + 4 + f.reach mag := by
    refine Nat.lt_of_mul_lt_mul_right (a := den) ?_
    simp only [Nat.add_mul, Nat.mul_assoc]
    omega
  have habove : 4 * (num / den) ≤ 4 * mag + 2 * 2 ^ f.grid mag := by
    refine Nat.le_of_mul_le_mul_right (c := den) ?_ hden
    simp only [Nat.add_mul, Nat.mul_assoc]
    omega
  rw [round]
  rcases grid_near hexact hbelow habove with hgrid | ⟨hnarrow, hgrid, hlt⟩
  · rw [hgrid]
    exact roundDiv_mul_pow (Nat.div_mul_cancel hexact) hden (by omega) (by omega)
      (htie.imp_right fun hlt => ⟨by omega, by omega⟩)
  · obtain ⟨hk, hmag⟩ := hnarrow
    rw [reach, if_pos ⟨hk, hmag⟩] at hlow
    rw [← hgrid, Nat.pow_succ] at hmag hlow
    have hmag' : 2 * 2 ^ (f.precision - 1) * 2 ^ f.grid (num / den) = mag := by
      rw [hmag, Nat.mul_comm, Nat.mul_assoc]
    have hnum : num / den * den + den ≤ mag * den := by
      rw [← Nat.succ_mul]
      exact Nat.mul_le_mul_right den hlt
    rw [Nat.mul_right_comm] at hlow
    exact roundDiv_mul_pow hmag' hden (by omega) (by omega) (.inl (Nat.mul_mod_right 2 _))

end Format

end Widgetry
