import Widgetry.Proofs.Decimal.Shortest
import Widgetry.Proofs.Toml.Literal
import Widgetry.Toml.Printer

/-! Floats as they are written: the fewest digits with a point among them, which are read back as
the same float. -/
namespace Widgetry

namespace Binary

variable {f : Format}

theorem ofSteps_mul_right (neg : Bool) {c : Nat} (hc : 0 < c) (num den : Nat) :
    ofSteps (f := f) neg (num * c) (den * c) = ofSteps neg num den := by
  simp only [ofSteps, Format.round_mul_right hc]

/-- Zeros behind the digits move the point. -/
theorem ofDecimal_shift (neg : Bool) (digits : Nat) {exponent : Int} (h : 0 ≤ exponent) (k : Nat) :
    ofDecimal (f := f) neg (digits * 10 ^ (exponent.toNat + k)) (-k) =
      ofDecimal neg digits exponent := by
  have hten : 0 < 10 ^ k := Nat.pow_pos (by decide)
  have hzero : (-exponent).toNat = 0 := by omega
  have hnum : digits * 10 ^ (exponent.toNat + k) * 10 ^ 0 * 2 ^ f.scale =
      digits * 10 ^ exponent.toNat * 2 ^ f.scale * 10 ^ k := by
    rw [Nat.pow_zero, Nat.mul_one, Nat.pow_add, ← Nat.mul_assoc, Nat.mul_right_comm]
  simp only [ofDecimal, ofRatio, Int.toNat_neg_natCast, Int.neg_neg, Int.toNat_natCast, hzero]
  rw [hnum, ← ofSteps_mul_right neg hten _ (10 ^ 0), Nat.pow_zero, Nat.one_mul]

end Binary

namespace Decimal

open Toml.Literal

variable {d : Decimal}

/-- Digits filled up with zeros in front, so that one at least is left of `places` others. -/
def padded (digits places : Nat) : List Char :=
  List.replicate (places + 1 - (Nat.toDigits 10 digits).length) '0' ++ Nat.toDigits 10 digits

theorem positional_of_nonneg (h : 0 ≤ d.exponent) : d.positional.toList =
    (Nat.toDigits 10 d.digits ++ List.replicate d.exponent.toNat '0') ++ '.' :: ['0'] := by
  simp [positional, split, h, zeros]

theorem length_padded (digits places : Nat) : places < (padded digits places).length := by
  simp only [padded, List.length_append, List.length_replicate]
  omega

theorem isDigit_padded (digits places : Nat) : ∀ c ∈ padded digits places, c.isDigit = true := by
  refine List.forall_mem_append.mpr ⟨fun c hc => ?_, (whole_toDigits digits).isDigit⟩
  rw [List.eq_of_mem_replicate hc]
  rfl

theorem natOf_padded (digits places : Nat) : natOf 10 (padded digits places) = digits := by
  rw [natOf_eq (isDigit_padded digits places), padded, Nat.ofDigitChars_append,
    Nat.ofDigitChars_replicate_zero, Nat.mul_zero, Nat.ofDigitChars_ten_toDigits]

/-- The digits left of the point. -/
def wholePart (digits places : Nat) : List Char :=
  (padded digits places).take ((padded digits places).length - places)

def fraction (digits places : Nat) : List Char :=
  (padded digits places).drop ((padded digits places).length - places)

theorem length_fraction (digits places : Nat) : (fraction digits places).length = places := by
  have := length_padded digits places
  rw [fraction, List.length_drop]
  omega

theorem digits_fraction (digits : Nat) {places : Nat} (hplaces : 0 < places) :
    Digits (fraction digits places) where
  ne_nil := by
    have := length_fraction digits places
    exact List.ne_nil_of_length_pos (by omega)
  isDigit c hc := isDigit_padded digits places c (List.mem_of_mem_drop hc)

theorem positional_of_neg (h : d.exponent < 0) : d.positional.toList =
    wholePart d.digits (-d.exponent).toNat ++ '.' :: fraction d.digits (-d.exponent).toNat := by
  have hne : String.ofList (fraction d.digits (-d.exponent).toNat) ≠ "" := by
    intro heq
    refine (digits_fraction d.digits (show 0 < (-d.exponent).toNat by omega)).ne_nil ?_
    simpa using congrArg String.toList heq
  have hpadded : (zeros ((-d.exponent).toNat + 1 - (toString d.digits).length) ++
      toString d.digits).toList = padded d.digits (-d.exponent).toNat := by
    rw [← String.length_toList]
    simp [zeros, padded]
  have hsplit : d.split = (String.ofList (wholePart d.digits (-d.exponent).toNat),
      String.ofList (fraction d.digits (-d.exponent).toNat)) := by
    simp only [split, if_neg (show ¬0 ≤ d.exponent by omega), hpadded]
    rfl
  simp only [positional, hsplit, if_neg hne]
  simp

theorem whole_wholePart (digits : Nat) {places : Nat} (hplaces : 0 < places) :
    Whole (wholePart digits places) := by
  have hlength := length_padded digits places
  have hne : wholePart digits places ≠ [] := by
    refine List.ne_nil_of_length_pos ?_
    rw [wholePart, List.length_take]
    omega
  refine ⟨⟨hne, fun c hc => isDigit_padded digits places c (List.mem_of_mem_take hc)⟩, ?_⟩
  rcases Nat.lt_or_ge places (Nat.toDigits 10 digits).length with hlong | hshort
  · right
    have hpos : 0 < digits := by
      refine Nat.pos_of_ne_zero ?_
      rintro rfl
      exact Nat.not_le_of_lt hlong hplaces
    have hpadded : padded digits places = Nat.toDigits 10 digits := by
      rw [padded, Nat.sub_eq_zero_of_le hlong, List.replicate_zero, List.nil_append]
    rw [wholePart, hpadded, List.head?_take, if_neg (by omega)]
    exact head?_toDigits hpos
  · left
    obtain ⟨k, hk⟩ := Nat.exists_eq_add_of_le hshort
    have hzeros : places + 1 - (Nat.toDigits 10 digits).length = k + 1 := by omega
    have hone : (padded digits places).length - places = 1 := by
      rw [padded, List.length_append, List.length_replicate]
      omega
    rw [wholePart, hone, padded, hzeros, List.replicate_succ]
    rfl

/-- Digits followed by zeros. -/
def lengthened (digits count : Nat) : List Char :=
  Nat.toDigits 10 digits ++ List.replicate count '0'

theorem digits_lengthened (digits count : Nat) : Digits (lengthened digits count) where
  ne_nil := List.append_ne_nil_of_left_ne_nil Nat.toDigits_ne_nil _
  isDigit := by
    refine List.forall_mem_append.mpr ⟨(whole_toDigits digits).isDigit, fun c hc => ?_⟩
    rw [List.eq_of_mem_replicate hc]
    rfl

theorem whole_lengthened {digits count : Nat} (h : count = 0 ∨ 0 < digits) :
    Whole (lengthened digits count) := by
  refine ⟨digits_lengthened digits count, ?_⟩
  rcases Nat.eq_zero_or_pos digits with rfl | hpos
  · left
    rw [h.resolve_right (Nat.lt_irrefl 0)]
    rfl
  · right
    rw [lengthened, List.head?_append_of_ne_nil _ Nat.toDigits_ne_nil]
    exact head?_toDigits hpos

theorem natOf_lengthened (digits count : Nat) :
    natOf 10 (lengthened digits count) = digits * 10 ^ count := by
  rw [natOf_eq (digits_lengthened digits count).isDigit, lengthened, Nat.ofDigitChars_append,
    Nat.ofDigitChars_replicate_zero, Nat.ofDigitChars_ten_toDigits, Nat.mul_comm]

theorem lengthened_append (digits count : Nat) :
    lengthened digits count ++ ['0'] = lengthened digits (count + 1) := by
  rw [lengthened, List.append_assoc, ← List.replicate_succ', lengthened]

/-- The text of a decimal with a point is a number that rounds alike. -/
theorem exists_positional (d : Decimal) (hd : d.exponent ≤ 0 ∨ 0 < d.digits) :
    ∃ whole frac, Whole whole ∧ Digits frac ∧ d.positional.toList = whole ++ '.' :: frac ∧
      ∀ neg, Binary.ofDecimal (f := .binary64) neg (natOf 10 (whole ++ frac)) (-frac.length) =
        Binary.ofDecimal neg d.digits d.exponent := by
  rcases Int.lt_or_le d.exponent 0 with hneg | hnonneg
  · have hplaces : 0 < (-d.exponent).toNat := by omega
    refine ⟨_, _, whole_wholePart d.digits hplaces, digits_fraction d.digits hplaces,
      positional_of_neg hneg, fun neg => ?_⟩
    rw [length_fraction, wholePart, fraction, List.take_append_drop, natOf_padded]
    congr 1
    omega
  · have hcount : d.exponent.toNat = 0 ∨ 0 < d.digits := hd.imp_left (by omega)
    have hfrac : Digits ['0'] := ⟨List.cons_ne_nil _ _, List.forall_mem_singleton.mpr rfl⟩
    refine ⟨_, ['0'], whole_lengthened hcount, hfrac, positional_of_nonneg hnonneg, fun neg => ?_⟩
    rw [lengthened_append, natOf_lengthened]
    exact Binary.ofDecimal_shift neg d.digits hnonneg 1

end Decimal

namespace Toml.Literal

/-- A float is read from the text it is written as. -/
theorem stands_float (x : Binary64) : Stands (Printer.floats.write x).toList (.float x) := by
  cases x with
  | nan => exact ⟨by decide, List.all_eq_true.mp rfl, by decide, rfl⟩
  | infinite neg =>
    cases neg with
    | true => exact ⟨by decide, List.all_eq_true.mp rfl, by decide, rfl⟩
    | false => exact ⟨by decide, List.all_eq_true.mp rfl, by decide, rfl⟩
  | finite neg mag hfits =>
    obtain ⟨whole, frac, hwhole, hfrac, htext, hround⟩ :=
      (Decimal.shortest .binary64 mag).exists_positional (by
        rcases Nat.eq_zero_or_pos mag with rfl | hmag
        · exact .inl (Int.le_refl 0)
        · exact .inr (Decimal.digits_pos hmag))
    have hwrite : (Printer.floats.write (.finite neg mag hfits : Binary64)).toList =
        mark neg (whole ++ '.' :: frac) := by
      rw [← htext]
      have hpositional : Printer.floats.isPositional (Decimal.shortest .binary64 mag) = true := by
        simp [Decimal.Spelling.isPositional, Printer.floats]
      cases neg <;> simp [Decimal.Spelling.write, hpositional, mark]
    have hfinite : (.finite neg mag hfits : Binary64) ≠ .infinite false := by
      intro h
      cases h
    rw [hwrite]
    exact stands_decimal hwhole hfrac neg
      ((hround neg).trans (Decimal.ofDecimal_shortest neg hfits)) hfinite

end Toml.Literal

end Widgetry
