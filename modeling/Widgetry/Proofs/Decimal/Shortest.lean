import Widgetry.Decimal.Shortest
import Widgetry.Proofs.Binary.Rounding

/-! The shortest decimal of a number reads back as the number: the search ends, at the latest on the
grid that the number lies on, with a decimal in the interval that rounds to it. -/
namespace Widgetry.Decimal

variable {f : Format} {mag num den : Nat}

namespace Interval

theorem around_low (f : Format) (mag : Nat) : (around f mag).low = 4 * mag - f.reach mag := rfl

theorem holds_iff {i : Interval} : i.holds num den = true ↔
    i.low * den ≤ num * i.den ∧ num * i.den ≤ i.high * den ∧
      (i.closed = true ∨ i.low * den < num * i.den ∧ num * i.den < i.high * den) := by
  rw [holds]
  cases i.closed with
  | false =>
    simp only [Bool.false_eq_true, if_false, Bool.and_eq_true, decide_eq_true_eq, false_or]
    exact ⟨fun h => ⟨Nat.le_of_lt h.1, Nat.le_of_lt h.2, h⟩, fun h => h.2.2⟩
  | true =>
    simp only [if_true, Bool.and_eq_true, decide_eq_true_eq, true_or, and_true]

theorem round_of_holds (hexact : f.Exact mag) (hden : 0 < den)
    (h : (around f mag).holds num den = true) : f.round (num * 2 ^ f.scale) den = mag := by
  obtain ⟨hlow, hhigh, htie⟩ := holds_iff.mp h
  have hnum : num * (around f mag).den = 4 * (num * 2 ^ f.scale) := Nat.mul_left_comm num 4 _
  have hhigh' : (around f mag).high * den = 4 * (mag * den) + 2 * (2 ^ f.grid mag * den) := by
    rw [around, Nat.add_mul, Nat.mul_assoc, Nat.mul_assoc]
  rw [hnum] at hlow hhigh htie
  rw [around_low, Nat.sub_mul, Nat.mul_assoc] at hlow htie
  rw [hhigh'] at hhigh htie
  refine Format.round_near hexact hden (by omega) hhigh (htie.imp beq_iff_eq.mp ?_)
  rintro ⟨hlt, hlt'⟩
  exact ⟨by omega, hlt'⟩

theorem onGrid?_eq_some {i : Interval} {exponent : Int} {d : Decimal}
    (h : i.onGrid? exponent = some d) : d.exponent = exponent ∧
      i.holds (d.digits * 10 ^ d.exponent.toNat) (10 ^ (-d.exponent).toNat) = true := by
  simp only [onGrid?] at h
  split at h
  · exact nomatch h
  next hbelow _ =>
    obtain rfl := Option.some.inj h
    exact ⟨rfl, hbelow⟩
  next _ habove =>
    obtain rfl := Option.some.inj h
    exact ⟨rfl, habove⟩
  next hbelow habove =>
    split at h
    all_goals
      obtain rfl := Option.some.inj h
      exact ⟨rfl, by assumption⟩

theorem onGrid?_isSome {i : Interval} {exponent : Int}
    (h : i.holds (i.value * 10 ^ (-exponent).toNat / (i.den * 10 ^ exponent.toNat) *
      10 ^ exponent.toNat) (10 ^ (-exponent).toNat) = true) :
    (i.onGrid? exponent).isSome = true := by
  simp only [onGrid?, h]
  split
  next heq _ => exact nomatch heq
  · rfl
  next heq _ => exact nomatch heq
  · split <;> rfl

/-- At its own scale the value of the interval is a decimal. -/
theorem onGrid?_scale (hmag : 0 < mag) : ((around f mag).onGrid? (-f.scale)).isSome = true := by
  refine onGrid?_isSome ?_
  rw [Int.neg_neg, Int.toNat_natCast, Int.toNat_neg_natCast, Nat.pow_zero, Nat.mul_one, Nat.mul_one]
  have hstep : 0 < 2 ^ f.grid mag := Nat.two_pow_pos _
  have hreach : 0 < f.reach mag := by
    rw [Format.reach]
    split <;> omega
  have hnum : mag * 5 ^ f.scale * (around f mag).den = 4 * mag * 10 ^ f.scale := by
    calc mag * 5 ^ f.scale * (4 * 2 ^ f.scale)
        = mag * 4 * (5 ^ f.scale * 2 ^ f.scale) := Nat.mul_mul_mul_comm _ _ _ _
      _ = 4 * mag * 10 ^ f.scale := by rw [Nat.mul_comm mag, ← Nat.mul_pow]
  have hvalue : (around f mag).value * 10 ^ f.scale / (around f mag).den = mag * 5 ^ f.scale := by
    rw [show (around f mag).value = 4 * mag from rfl, ← hnum]
    exact Nat.mul_div_cancel _ (Nat.mul_pos (by decide) (Nat.two_pow_pos _))
  rw [hvalue, holds_iff]
  have hten : 0 < 10 ^ f.scale := Nat.pow_pos (by decide)
  have hlow : (around f mag).low * 10 ^ f.scale < 4 * mag * 10 ^ f.scale := by
    refine Nat.mul_lt_mul_of_pos_right ?_ hten
    rw [around_low]
    omega
  have hhigh : 4 * mag * 10 ^ f.scale < (around f mag).high * 10 ^ f.scale := by
    refine Nat.mul_lt_mul_of_pos_right ?_ hten
    exact Nat.lt_add_of_pos_right (Nat.mul_pos (by decide) hstep)
  rw [hnum]
  exact ⟨Nat.le_of_lt hlow, Nat.le_of_lt hhigh, .inr ⟨hlow, hhigh⟩⟩

/-- By induction on the fuel: it reaches down to an exponent that has a decimal. -/
theorem onGrid?_search {i : Interval} {last : Int} (hlast : (i.onGrid? last).isSome = true)
    (fuel : Nat) (exponent : Int) (hle : last ≤ exponent) (hfuel : exponent < last + fuel) :
    ∃ exponent', i.onGrid? exponent' = some (i.search fuel exponent) := by
  induction fuel generalizing exponent with
  | zero => omega
  | succ fuel ih =>
    rw [search]
    cases h : i.onGrid? exponent with
    | some d => exact ⟨exponent, h⟩
    | none =>
      have hne : last ≠ exponent := by
        rintro rfl
        rw [h] at hlast
        exact nomatch hlast
      exact ih (exponent - 1) (by omega) (by omega)

end Interval

theorem shortest_holds (hmag : 0 < mag) :
    (Interval.around f mag).holds ((shortest f mag).digits * 10 ^ (shortest f mag).exponent.toNat)
      (10 ^ (-(shortest f mag).exponent).toNat) = true := by
  obtain ⟨exponent, hexponent⟩ := Interval.onGrid?_search (Interval.onGrid?_scale (f := f) hmag)
    (digitCount (mag / 2 ^ f.scale) + f.scale + 1) (digitCount (mag / 2 ^ f.scale)) (by omega)
    (by omega)
  have hshortest : shortest f mag = (Interval.around f mag).search
      (digitCount (mag / 2 ^ f.scale) + f.scale + 1) (digitCount (mag / 2 ^ f.scale)) := by
    rw [shortest, if_neg (by omega)]
  rw [← hshortest] at hexponent
  exact (Interval.onGrid?_eq_some hexponent).2

theorem shortest_zero : shortest f 0 = ⟨0, 0⟩ := rfl

/-- A positive number has a decimal with digits. -/
theorem digits_pos (hmag : 0 < mag) : 0 < (shortest f mag).digits := by
  have hden : 0 < 10 ^ (-(shortest f mag).exponent).toNat := Nat.pow_pos (by decide)
  have hstep : 2 ^ f.grid mag ≤ mag := by
    refine Nat.le_trans (Nat.pow_le_pow_right (by decide) ?_) (Nat.log2_self_le (by omega))
    have := f.precision_pos
    simp only [Format.grid]
    omega
  have hlow : 0 < (Interval.around f mag).low := by
    have hreach := f.reach_le mag
    rw [Interval.around_low]
    omega
  refine Nat.pos_of_ne_zero fun hzero => ?_
  have hholds := (Interval.holds_iff.mp (shortest_holds (f := f) hmag)).1
  rw [hzero, Nat.zero_mul, Nat.zero_mul] at hholds
  exact Nat.not_le_of_lt (Nat.mul_pos hlow hden) hholds

theorem ofDecimal_shortest (neg : Bool) (h : f.Fits mag) :
    Binary.ofDecimal neg (shortest f mag).digits (shortest f mag).exponent = .finite neg mag h := by
  rcases Nat.eq_zero_or_pos mag with rfl | hmag
  · have hzero : Binary.ofDecimal (f := f) neg 0 0 = Binary.ofSteps neg (0 * 1) 1 := by
      simp [Binary.ofDecimal, Binary.ofRatio]
    rw [shortest_zero, hzero, Binary.ofSteps_exact h neg 1 Nat.one_pos]
  · have hden : 0 < 10 ^ (-(shortest f mag).exponent).toNat := Nat.pow_pos (by decide)
    have hround := Interval.round_of_holds h.2 hden (shortest_holds hmag)
    simp only [Binary.ofDecimal, Binary.ofRatio, Binary.ofSteps, hround, h.1, dif_pos]

end Widgetry.Decimal
