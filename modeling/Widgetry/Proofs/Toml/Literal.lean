import Mathlib.Data.List.Basic
import Mathlib.Data.List.TakeWhile
import Widgetry.Toml.Literal

/-! Numbers as tokens: what is written as digits, with a sign and a point or without, is read as the
number it stands for, and as nothing else. -/
namespace Widgetry.Toml.Literal

/-- A sign in front of a number. -/
def mark (neg : Bool) (cs : List Char) : List Char := if neg then '-' :: cs else cs

/-- Decimal digits, at least one. -/
structure Digits (cs : List Char) : Prop where
  ne_nil : cs ≠ []
  isDigit : ∀ c ∈ cs, c.isDigit

/-- Digits without a leading zero. -/
structure Whole (cs : List Char) : Prop extends Digits cs where
  no_zero : cs = ['0'] ∨ cs.head? ≠ some '0'

variable {cs whole frac : List Char} {neg : Bool}

theorem ne_of_isDigit {c d : Char} (hc : c.isDigit = true) (hd : d.isDigit = false) : c ≠ d := by
  rintro rfl
  exact Bool.false_ne_true (hd.symm.trans hc)

theorem digits_eq (h : Digits cs) : digits Char.isDigit cs = some cs := by
  obtain ⟨hne, hall⟩ := h
  induction cs with
  | nil => exact (hne rfl).elim
  | cons c tail ih =>
    obtain ⟨hc, htail⟩ := List.forall_mem_cons.mp hall
    cases tail with
    | nil => rw [digits, if_pos hc]
    | cons d rest =>
      have hd : d ≠ '_' := ne_of_isDigit (htail d List.mem_cons_self) rfl
      rw [digits, if_pos hc, ih (List.cons_ne_nil _ _) htail, Option.map_some]
      · exact List.cons_ne_nil d rest
      · exact fun _ h => hd (List.cons.inj h).1

theorem isDigit_of_digits {ok : Char → Bool} {ds : List Char} (h : digits ok cs = some ds) :
    ∀ c ∈ cs, ok c = true ∨ c = '_' := by
  fun_induction digits ok cs generalizing ds with
  | case1 | case3 | case5 | case7 => exact nomatch h
  | case2 c hc => exact List.forall_mem_singleton.mpr (.inl hc)
  | case4 c rest hc ih =>
    obtain ⟨_, hrest, -⟩ := Option.map_eq_some_iff.mp h
    exact List.forall_mem_cons.mpr ⟨.inl hc, List.forall_mem_cons.mpr ⟨.inr rfl, ih hrest⟩⟩
  | case6 c rest _ _ hc ih =>
    obtain ⟨_, hrest, -⟩ := Option.map_eq_some_iff.mp h
    exact List.forall_mem_cons.mpr ⟨.inl hc, ih hrest⟩

theorem plain_eq (h : Whole cs) : plain cs = some cs := by
  rw [plain, digits_eq h.toDigits]
  split
  next heq => exact heq.symm
  next hne heq =>
    obtain rfl := Option.some.inj heq
    rcases h.no_zero with hzero | hhead
    · exact (hne (List.cons.inj hzero).2).elim
    · exact (hhead rfl).elim
  next => rfl

theorem digits_of_plain {ds : List Char} (h : plain cs = some ds) :
    ∃ ds, digits Char.isDigit cs = some ds := by
  rw [plain] at h
  cases hdigits : digits Char.isDigit cs with
  | some ds => exact ⟨ds, rfl⟩
  | none =>
    rw [hdigits] at h
    exact nomatch h

theorem natOf_eq (h : ∀ c ∈ cs, c.isDigit) : natOf 10 cs = Nat.ofDigitChars 10 cs 0 := by
  have hfold (n : Nat) :
      cs.foldl (fun n c => n * 10 + digitValue c) n = Nat.ofDigitChars 10 cs n := by
    induction cs generalizing n with
    | nil => rfl
    | cons c rest ih =>
      obtain ⟨hc, hrest⟩ := List.forall_mem_cons.mp h
      rw [List.foldl_cons, ih hrest, Nat.ofDigitChars_cons, digitValue, if_pos hc, Nat.mul_comm]
  exact hfold 0

theorem head?_toDigits {n : Nat} (hn : 0 < n) : (Nat.toDigits 10 n).head? ≠ some '0' := by
  induction n using Nat.strongRecOn with
  | ind n ih =>
    rcases Nat.lt_or_ge n 10 with hlt | hge
    · rw [Nat.toDigits_of_lt_base hlt, List.head?_cons, Ne, Option.some_inj, Nat.digitChar_eq_zero]
      omega
    · rw [Nat.toDigits_of_base_le (by decide) hge,
        List.head?_append_of_ne_nil _ Nat.toDigits_ne_nil]
      exact ih (n / 10) (by omega) (by omega)

theorem whole_toDigits (n : Nat) : Whole (Nat.toDigits 10 n) where
  ne_nil := Nat.toDigits_ne_nil
  isDigit _ hc := Nat.isDigit_of_mem_toDigits (by decide) (by decide) hc
  no_zero := by
    rcases Nat.eq_zero_or_pos n with rfl | hn
    · exact .inl rfl
    · exact .inr (head?_toDigits hn)

theorem natOf_toDigits (n : Nat) : natOf 10 (Nat.toDigits 10 n) = n := by
  rw [natOf_eq (whole_toDigits n).isDigit, Nat.ofDigitChars_ten_toDigits]

theorem Digits.exists_cons (h : Digits cs) : ∃ c rest, cs = c :: rest ∧ c.isDigit = true := by
  obtain ⟨c, rest, rfl⟩ := List.exists_cons_of_ne_nil h.ne_nil
  exact ⟨c, rest, rfl, h.isDigit c List.mem_cons_self⟩

theorem signed_mark {c : Char} (neg : Bool) (hc : c.isDigit = true) (rest : List Char) :
    signed (mark neg (c :: rest)) = (neg, c :: rest) := by
  cases neg with
  | true => rfl
  | false =>
    rw [mark, if_neg Bool.false_ne_true, signed]
    · rintro _ heq
      exact ne_of_isDigit hc rfl (List.cons.inj heq).1
    · rintro _ heq
      exact ne_of_isDigit hc rfl (List.cons.inj heq).1

theorem unsignedInteger_eq_none (h : ∀ c ∈ cs, c ≠ 'x' ∧ c ≠ 'o' ∧ c ≠ 'b') :
    unsignedInteger cs = none := by
  unfold unsignedInteger
  split
  · exact ((h 'x' (by simp)).1 rfl).elim
  · exact ((h 'o' (by simp)).2.1 rfl).elim
  · exact ((h 'b' (by simp)).2.2 rfl).elim
  · rfl

/-- The characters of a written number. -/
def Numeric (cs : List Char) : Prop := ∀ c ∈ cs, c.isDigit = true ∨ c = '.' ∨ c = '-'

theorem Numeric.mark (h : Numeric cs) (neg : Bool) : Numeric (mark neg cs) := by
  cases neg with
  | false => exact h
  | true => exact List.forall_mem_cons.mpr ⟨.inr (.inr rfl), h⟩

theorem Numeric.ne {d : Char} (h : Numeric cs) (hd : d.isDigit = false) (hpoint : d ≠ '.')
    (hminus : d ≠ '-') : d ∉ cs := by
  intro hmem
  rcases h d hmem with hdigit | hd' | hd'
  · exact Bool.false_ne_true (hd.symm.trans hdigit)
  · exact hpoint hd'
  · exact hminus hd'

theorem Numeric.unsignedInteger (h : Numeric cs) : unsignedInteger cs = none := by
  refine unsignedInteger_eq_none fun c hc => ⟨?_, ?_, ?_⟩
  all_goals
    rintro rfl
    exact h.ne (by decide) (by decide) (by decide) hc

theorem expect_eq_none {c : Char} (h : c ∉ cs) : expect c cs = none := by
  cases cs with
  | nil => rfl
  | cons d rest =>
    rw [expect, if_neg]
    rintro rfl
    exact h List.mem_cons_self

theorem subset_of_twoDigits {low high : Nat} {rest : List Char}
    (h : twoDigits low high cs = some rest) : rest ⊆ cs := by
  unfold twoDigits at h
  split at h
  · simp only at h
    split at h
    · rw [← Option.some.inj h]
      exact List.subset_cons_of_subset _ (List.subset_cons_self _ _)
    · exact nomatch h
  · exact nomatch h

theorem time_eq_none (h : ':' ∉ cs) : time cs = none := by
  rw [time]
  cases htwo : twoDigits 0 23 cs with
  | none => rfl
  | some rest =>
    have hnone : expect ':' rest = none :=
      expect_eq_none fun hmem => h (subset_of_twoDigits htwo hmem)
    simp only [Option.bind_eq_bind, Option.bind_some, hnone, Option.bind_none]

theorem date_eq_none (h : '-' ∉ cs.tail) : date cs = none := by
  unfold date
  split
  · exact (h (by simp)).elim
  · rfl

theorem isDate_eq_false (h : '-' ∉ cs.tail) : isDate cs = false := by
  rw [isDate, date_eq_none h]
  rfl

theorem isDatetime_eq_false (hcolon : ':' ∉ cs) (hminus : '-' ∉ cs.tail) :
    isDatetime cs = false := by
  rw [isDatetime, isTime, time_eq_none hcolon, date_eq_none hminus]
  rfl

/-- A token that stands for a value, and does not begin a date. -/
structure Stands (cs : List Char) (value : Value) : Prop where
  ne_nil : cs ≠ []
  token : ∀ c ∈ cs, isTokenChar c = true
  not_date : isDate cs = false
  read : read? cs = some value

/-- A number without its sign. -/
structure Unsigned (cs : List Char) : Prop where
  numeric : ∀ c ∈ cs, c.isDigit = true ∨ c = '.'
  head : ∃ c rest, cs = c :: rest ∧ c.isDigit = true

theorem Whole.unsigned (h : Whole cs) : Unsigned cs where
  numeric c hc := .inl (h.isDigit c hc)
  head := h.exists_cons

theorem unsigned_decimal (hwhole : Whole whole) (hfrac : Digits frac) :
    Unsigned (whole ++ '.' :: frac) where
  numeric c hc := by
    rcases List.mem_append.mp hc with hc | hc
    · exact .inl (hwhole.isDigit c hc)
    · exact (List.mem_cons.mp hc).symm.imp_left (hfrac.isDigit c)
  head := by
    obtain ⟨c, rest, rfl, hc⟩ := hwhole.exists_cons
    exact ⟨c, rest ++ '.' :: frac, rfl, hc⟩

namespace Unsigned

variable (h : Unsigned cs) (neg : Bool)
include h

theorem numeric_mark : Numeric (mark neg cs) := by
  refine Numeric.mark (fun c hc => ?_) neg
  exact (h.numeric c hc).imp_right .inl

theorem not_mem : '-' ∉ cs := fun hmem => by
  rcases h.numeric _ hmem with hdigit | hpoint
  · exact Bool.false_ne_true hdigit
  · exact absurd hpoint (by decide)

theorem not_mem_tail : '-' ∉ (mark neg cs).tail := by
  cases neg with
  | true => exact h.not_mem
  | false => exact fun hmem => h.not_mem (List.mem_of_mem_tail hmem)

theorem signed_eq : signed (mark neg cs) = (neg, cs) := by
  obtain ⟨c, rest, rfl, hc⟩ := h.head
  exact signed_mark neg hc rest

theorem token : ∀ c ∈ mark neg cs, isTokenChar c = true := by
  intro c hc
  rcases h.numeric_mark neg c hc with hdigit | rfl | rfl
  · simp [isTokenChar, Char.isAlphanum, hdigit]
  · rfl
  · rfl

theorem mark_ne_nil : mark neg cs ≠ [] := by
  obtain ⟨c, rest, rfl, -⟩ := h.head
  cases neg
  · exact List.cons_ne_nil _ _
  · exact List.cons_ne_nil _ _

theorem not_date : isDate (mark neg cs) = false := isDate_eq_false (h.not_mem_tail neg)

/-- A number is no word and no date. -/
theorem read?_eq : read? (mark neg cs) =
    ((integer? (mark neg cs)).map .integer <|> (decimal? (mark neg cs)).map .float <|>
      (special? (mark neg cs)).map .float) := by
  have hword {word : List Char} {d : Char} (hmem : d ∈ word) (hd : d.isDigit = false)
      (hpoint : d ≠ '.') (hminus : d ≠ '-') : mark neg cs ≠ word := by
    rintro rfl
    exact (h.numeric_mark neg).ne hd hpoint hminus hmem
  have hcolon : ':' ∉ mark neg cs := (h.numeric_mark neg).ne (by decide) (by decide) (by decide)
  rw [read?, if_neg (hword (d := 't') (by decide) (by decide) (by decide) (by decide)),
    if_neg (hword (d := 'f') (by decide) (by decide) (by decide) (by decide)),
    isDatetime_eq_false hcolon (h.not_mem_tail neg), if_neg Bool.false_ne_true]

end Unsigned

theorem integer?_whole (h : Whole cs) (neg : Bool) (hrange : Value.integerRange
    (if neg then -(natOf 10 cs : Int) else natOf 10 cs) = true) :
    integer? (mark neg cs) = some (if neg then -(natOf 10 cs : Int) else natOf 10 cs) := by
  rw [integer?, (h.unsigned.numeric_mark neg).unsignedInteger, h.unsigned.signed_eq]
  simp only [plain_eq h, Option.map_none, Option.bind_eq_bind, Option.bind_some, Option.orElse,
    Option.pure_def, hrange, if_true, Option.orElse_eq_orElse]

theorem integer?_decimal (hwhole : Whole whole) (hfrac : Digits frac) (neg : Bool) :
    integer? (mark neg (whole ++ '.' :: frac)) = none := by
  have hunsigned := unsigned_decimal hwhole hfrac
  have hplain : plain (whole ++ '.' :: frac) = none := by
    cases hplain : plain (whole ++ '.' :: frac) with
    | none => rfl
    | some ds =>
      obtain ⟨_, hdigits⟩ := digits_of_plain hplain
      rcases isDigit_of_digits hdigits '.' (by simp) with hpoint | hpoint
      · exact nomatch hpoint
      · exact absurd hpoint (by decide)
  rw [integer?, (hunsigned.numeric_mark neg).unsignedInteger, hunsigned.signed_eq]
  simp only [hplain, Option.map_none, Option.bind_eq_bind, Option.bind_none, Option.orElse,
    Option.orElse_eq_orElse]

theorem isDigitOrMark_of_isDigit (h : ∀ c ∈ cs, c.isDigit = true) :
    ∀ c ∈ cs, isDigitOrMark c = true := by
  intro c hc
  rw [isDigitOrMark, h c hc, Bool.true_or]

theorem takeWhile_digits (h : ∀ c ∈ cs, c.isDigit = true) (tail : List Char) :
    (cs ++ '.' :: tail).takeWhile isDigitOrMark = cs ∧
      (cs ++ '.' :: tail).dropWhile isDigitOrMark = '.' :: tail := by
  have hpoint : isDigitOrMark '.' = false := by decide
  rw [List.takeWhile_append_of_pos (isDigitOrMark_of_isDigit h),
    List.dropWhile_append_of_pos (isDigitOrMark_of_isDigit h),
    List.takeWhile_cons_of_neg (Bool.eq_false_iff.mp hpoint),
    List.dropWhile_cons_of_neg (Bool.eq_false_iff.mp hpoint), List.append_nil]
  exact ⟨rfl, rfl⟩

theorem clampExponent_eq {count places : Nat} (h : places ≤ count) :
    clampExponent count (-places) = -places := by
  simp only [clampExponent]
  omega

theorem decimal?_eq (hwhole : Whole whole) (hfrac : Digits frac) (neg : Bool) {x : Binary64}
    (hx : Binary.ofDecimal neg (natOf 10 (whole ++ frac)) (-frac.length) = x)
    (hfinite : x ≠ .infinite false) : decimal? (mark neg (whole ++ '.' :: frac)) = some x := by
  obtain ⟨htake, hdrop⟩ := takeWhile_digits hwhole.isDigit frac
  have hfracMark := isDigitOrMark_of_isDigit hfrac.isDigit
  have htake' : frac.takeWhile isDigitOrMark = frac := List.takeWhile_eq_self_iff.mpr hfracMark
  have hdrop' : frac.dropWhile isDigitOrMark = [] := List.dropWhile_eq_nil_iff.mpr hfracMark
  have hclamp : clampExponent (whole.length + frac.length) (0 - frac.length) = -frac.length := by
    rw [Int.zero_sub]
    exact clampExponent_eq (Nat.le_add_left _ _)
  rw [decimal?, (unsigned_decimal hwhole hfrac).signed_eq]
  refine Option.bind_eq_some_iff.mpr ⟨whole, by rw [htake, plain_eq hwhole], ?_⟩
  rw [hdrop]
  refine Option.bind_eq_some_iff.mpr ⟨frac, by rw [htake', digits_eq hfrac], ?_⟩
  refine Option.bind_eq_some_iff.mpr ⟨(frac, []), by rw [hdrop']; rfl, ?_⟩
  refine Option.bind_eq_some_iff.mpr ⟨0, rfl, ?_⟩
  simp only [hclamp, hx]
  exact if_neg hfinite

/-- An integer in range is read from its digits. -/
theorem stands_integer {i : Int} (h : Value.integerRange i = true) :
    Stands (toString i).toList (.integer i) := by
  have hdigits : (toString i).toList = mark (decide (i < 0)) (Nat.toDigits 10 i.natAbs) := by
    cases i with
    | ofNat n =>
      change (toString n).toList = _
      simp [mark]
    | negSucc n =>
      change ("-" ++ toString (n + 1)).toList = _
      simp [mark]
  have hwhole := whole_toDigits i.natAbs
  have hi : (if decide (i < 0) = true then -(natOf 10 (Nat.toDigits 10 i.natAbs) : Int)
      else natOf 10 (Nat.toDigits 10 i.natAbs)) = i := by
    rw [natOf_toDigits]
    simp only [decide_eq_true_eq]
    split <;> omega
  rw [hdigits]
  exact {
    ne_nil := hwhole.unsigned.mark_ne_nil _
    token := hwhole.unsigned.token _
    not_date := hwhole.unsigned.not_date _
    read := by
      rw [hwhole.unsigned.read?_eq, integer?_whole hwhole _ (by rwa [hi]), hi]
      rfl }

/-- Digits with a point are read as a float. -/
theorem stands_decimal (hwhole : Whole whole) (hfrac : Digits frac) (neg : Bool) {x : Binary64}
    (hx : Binary.ofDecimal neg (natOf 10 (whole ++ frac)) (-frac.length) = x)
    (hfinite : x ≠ .infinite false) : Stands (mark neg (whole ++ '.' :: frac)) (.float x) where
  ne_nil := (unsigned_decimal hwhole hfrac).mark_ne_nil neg
  token := (unsigned_decimal hwhole hfrac).token neg
  not_date := (unsigned_decimal hwhole hfrac).not_date neg
  read := by
    rw [(unsigned_decimal hwhole hfrac).read?_eq, integer?_decimal hwhole hfrac,
      decimal?_eq hwhole hfrac neg hx hfinite]
    rfl

theorem stands_boolean (b : Bool) : Stands (toString b).toList (.boolean b) := by
  cases b with
  | true => exact ⟨by decide, List.all_eq_true.mp rfl, by decide, rfl⟩
  | false => exact ⟨by decide, List.all_eq_true.mp rfl, by decide, rfl⟩

end Widgetry.Toml.Literal
