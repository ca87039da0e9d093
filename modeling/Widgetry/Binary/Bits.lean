import Widgetry.Binary.Basic
/-!
The interchange encoding: sign, exponent field, fraction. Main statement: decoding an encoded
number gives that number.
-/
namespace Widgetry

namespace Format

variable (f : Format)

/-- The exponent field of infinities and NaN, all ones. -/
def special : Nat := f.top - f.precision + 2

/-- Weight of the lowest exponent bit. -/
def hidden : Nat := 2 ^ (f.precision - 1)

def signBit : Nat := (f.special + 1) * f.hidden

/-- Counting in steps makes the exponent field the grid exponent, and the hidden bit its carry. -/
def encode (mag : Nat) : Nat := f.grid mag * f.hidden + mag / 2 ^ f.grid mag

def decode (code : Nat) : Nat :=
  let e := code / f.hidden
  let frac := code % f.hidden
  if e = 0 then frac else (f.hidden + frac) * 2 ^ (e - 1)

variable {f}

theorem hidden_pos : 0 < f.hidden := Nat.two_pow_pos _

theorem two_hidden : 2 * f.hidden = 2 ^ f.precision := by
  have := f.precision_pos
  rw [hidden, ← Nat.pow_succ']
  congr 1
  omega

theorem hidden_le_div_grid {mag : Nat} (h : f.grid mag ≠ 0) : f.hidden ≤ mag / 2 ^ f.grid mag := by
  have hm : mag ≠ 0 := by
    rintro rfl
    exact h (by have := f.precision_pos; simp only [grid, Nat.log2_zero]; omega)
  rw [Nat.le_div_iff_mul_le (Nat.two_pow_pos _), hidden, ← Nat.pow_add]
  refine Nat.le_trans (Nat.pow_le_pow_right (by decide) ?_) (Nat.log2_self_le hm)
  have := f.precision_pos
  simp only [grid] at h ⊢
  omega

theorem decode_encode {mag : Nat} (h : f.Exact mag) : f.decode (f.encode mag) = mag := by
  have hlt : mag / 2 ^ f.grid mag < 2 * f.hidden := by rw [two_hidden]; exact div_grid_lt _
  have hpos := f.hidden_pos
  have hmag : mag / 2 ^ f.grid mag * 2 ^ f.grid mag = mag := Nat.div_mul_cancel h
  by_cases hk : f.grid mag = 0
  · by_cases hs : mag < f.hidden
    · simp [decode, encode, hk, Nat.div_eq_of_lt hs, Nat.mod_eq_of_lt hs]
    · have hd : mag / f.hidden = 1 := by
        simp only [hk, Nat.pow_zero, Nat.div_one] at hlt
        exact Nat.div_eq_of_lt_le (by omega) (by omega)
      have hr : mag % f.hidden = mag - f.hidden := by
        rw [Nat.mod_eq_sub_mod (by omega), Nat.mod_eq_of_lt]
        simp only [hk, Nat.pow_zero, Nat.div_one] at hlt
        omega
      simp only [decode, encode, hk, Nat.zero_mul, Nat.pow_zero, Nat.div_one, Nat.zero_add, hd, hr]
      simp
      omega
  · have hge := hidden_le_div_grid hk
    obtain ⟨r, hr⟩ : ∃ r, mag / 2 ^ f.grid mag = f.hidden + r := ⟨_, (Nat.add_sub_cancel' hge).symm⟩
    have hrl : r < f.hidden := by omega
    have he : f.encode mag = (f.grid mag + 1) * f.hidden + r := by
      rw [encode, hr, Nat.add_mul]; omega
    have hd : f.encode mag / f.hidden = f.grid mag + 1 := by
      rw [he, Nat.mul_comm, Nat.mul_add_div hpos, Nat.div_eq_of_lt hrl, Nat.add_zero]
    have hm : f.encode mag % f.hidden = r := by
      rw [he, Nat.mul_comm, Nat.mul_add_mod, Nat.mod_eq_of_lt hrl]
    simp [decode, hd, hm, ← hr, hmag]

theorem encode_lt {mag : Nat} (h : f.Fits mag) : f.encode mag < f.special * f.hidden := by
  have hlt : mag / 2 ^ f.grid mag < 2 * f.hidden := by rw [two_hidden]; exact div_grid_lt _
  have hg : f.grid mag ≤ f.top - f.precision := by
    by_cases hm : mag = 0
    · subst hm
      have := f.precision_pos
      simp only [grid, Nat.log2_zero]
      omega
    · have := (Nat.log2_lt hm).mpr h.1
      simp only [grid]
      omega
  have : f.special = (f.top - f.precision) + 2 := rfl
  rw [this, encode, Nat.add_mul]
  have := Nat.mul_le_mul_right f.hidden hg
  omega

end Format

namespace Binary

variable {f : Format}

/-- The code of a number; NaN has one, which is quiet and positive. -/
def toBits : Binary f → Nat
  | nan => f.special * f.hidden + f.hidden / 2
  | infinite s => s.toNat * f.signBit + f.special * f.hidden
  | finite s m _ => s.toNat * f.signBit + f.encode m

def ofBits (bits : Nat) : Binary f :=
  let neg := decide (f.signBit ≤ bits)
  let code := bits % f.signBit
  if code < f.special * f.hidden then
    if h : f.Fits (f.decode code) then finite neg (f.decode code) h else nan
  else if code = f.special * f.hidden then infinite neg
  else nan

theorem sign_code (code : Nat) (h : code < f.signBit) (s : Bool) :
    (f.signBit ≤ s.toNat * f.signBit + code ↔ s = true) ∧
      (s.toNat * f.signBit + code) % f.signBit = code := by
  cases s
  · simp [Nat.mod_eq_of_lt h]; omega
  · simp [Nat.mod_eq_of_lt h]

theorem ofBits_toBits (hp : 2 ≤ f.precision) (x : Binary f) : ofBits (toBits x) = x := by
  have hs : f.signBit = f.special * f.hidden + f.hidden := by simp [Format.signBit, Nat.add_mul]
  have hh : 0 < f.hidden / 2 := by
    have : 2 ^ 1 ≤ f.hidden := Nat.pow_le_pow_right (by decide) (by omega)
    omega
  have hpos := f.hidden_pos
  cases x with
  | nan =>
    have h := sign_code (f := f) (f.special * f.hidden + f.hidden / 2) (by omega) false
    simp only [Bool.toNat_false, Nat.zero_mul, Nat.zero_add] at h
    simp only [ofBits, toBits, h.2]
    rw [if_neg (by omega), if_neg (by omega)]
  | infinite s =>
    have h := sign_code (f := f) (f.special * f.hidden) (by omega) s
    simp [ofBits, toBits, h.1, h.2]
  | finite s m hm =>
    have hl := Format.encode_lt hm
    have h := sign_code (f := f) (f.encode m) (by omega) s
    simp [ofBits, toBits, h.1, h.2, hl, Format.decode_encode hm.2, hm]

end Binary

end Widgetry
