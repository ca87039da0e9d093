import Mathlib.Data.List.Basic
import Widgetry.Toml.Text

/-! A text that was written is read back, up to its closing quote. -/
namespace Widgetry.Toml.Text

variable {cs rest : List Char}

theorem hexDigits_control : ∀ n < 128, (hexDigits n).length = 4 ∧
    ofHex? (hexDigits n) = some (Char.ofNat n) := by decide +kernel

theorem toNat_lt_of_not_plain {c : Char} (h : isPlain c = false) : c.toNat < 128 := by
  simp only [isPlain, Bool.or_eq_false_iff, Bool.and_eq_false_iff, decide_eq_false_iff_not,
    bne_eq_false_iff_eq] at h
  omega

theorem basic_plain {c : Char} (hplain : isPlain c = true) (hquote : c ≠ '"') (hslash : c ≠ '\\')
    (tail : List Char) : basic (c :: tail) = cons c (basic tail) := by
  rw [basic.eq_def]
  split
  next heq => exact (hquote (List.cons.inj heq).1).elim
  next heq => exact (hslash (List.cons.inj heq).1).elim
  next heq => exact (hslash (List.cons.inj heq).1).elim
  next heq => exact (hslash (List.cons.inj heq).1).elim
  next heq =>
    obtain ⟨rfl, rfl⟩ := List.cons.inj heq
    rw [if_pos (by simp [hplain, hslash])]
  next heq => exact (List.cons_ne_nil _ _ heq).elim

theorem basic_escape (c : Char) (tail : List Char) :
    basic (escape c ++ tail) = cons c (basic tail) := by
  unfold escape
  split
  case h_8 hquote hslash =>
    split
    next hplain => exact basic_plain hplain hquote hslash tail
    next hcontrol =>
      obtain ⟨hlength, hhex⟩ :=
        hexDigits_control c.toNat (toNat_lt_of_not_plain (Bool.eq_false_iff.mpr hcontrol))
      match hdigits : hexDigits c.toNat, hlength with
      | [d₁, d₂, d₃, d₄], _ =>
        rw [hdigits, Char.ofNat_toNat] at hhex
        change escaped (ofHex? [d₁, d₂, d₃, d₄]) (basic tail) = _
        rw [hhex]
        rfl
  all_goals rfl

theorem basic_flatMap_escape (cs rest : List Char) :
    basic (cs.flatMap escape ++ '"' :: rest) = .ok (cs, rest) := by
  induction cs with
  | nil => rfl
  | cons c cs ih =>
    rw [List.flatMap_cons, List.append_assoc, basic_escape, ih]
    rfl

theorem literal_append (h : ∀ c ∈ cs, isPlain c = true ∧ c ≠ '\'') (rest : List Char) :
    literal (cs ++ '\'' :: rest) = .ok (cs, rest) := by
  induction cs with
  | nil => rfl
  | cons c cs ih =>
    obtain ⟨⟨hplain, hquote⟩, hcs⟩ := List.forall_mem_cons.mp h
    rw [List.cons_append, literal, if_pos hplain, ih hcs]
    · rfl
    · exact hquote

theorem head?_escape (c : Char) (tail : List Char) : (escape c ++ tail).head? ≠ some '"' := by
  unfold escape
  split
  case h_8 hquote _ =>
    split
    · exact fun h => hquote (Option.some.inj h)
    · exact fun h => absurd (Option.some.inj h) (by decide)
  all_goals exact fun h => absurd (Option.some.inj h) (by decide)

theorem read_basic (h : cs.head? ≠ some '"' ∨ (cs.drop 1).head? ≠ some '"') :
    read ('"' :: cs) = basic cs := by
  unfold read
  split
  next heq =>
    obtain ⟨-, rfl⟩ := List.cons.inj heq
    rcases h with h | h
    · exact (h rfl).elim
    · exact (h rfl).elim
  next heq => exact absurd (List.cons.inj heq).1 (by decide)
  · rfl

theorem read_literal (h : cs.head? ≠ some '\'') : read ('\'' :: cs) = literal cs := by
  unfold read
  split
  next heq => exact absurd (List.cons.inj heq).1 (by decide)
  next heq =>
    obtain ⟨-, rfl⟩ := List.cons.inj heq
    exact (h rfl).elim
  · rfl

theorem read_write (text : String) (hrest : rest.head? ≠ some '"') :
    read ((write text).toList ++ rest) = .ok (text.toList, rest) := by
  rw [write]
  split
  next hliteral =>
    rw [Bool.and_eq_true, List.any_eq_true, List.all_eq_true] at hliteral
    obtain ⟨⟨c, hc, -⟩, hall⟩ := hliteral
    have hplain : ∀ c ∈ text.toList, isPlain c = true ∧ c ≠ '\'' := by
      intro c hc
      simpa using hall c hc
    have hhead : (text.toList ++ '\'' :: rest).head? ≠ some '\'' := by
      obtain ⟨d, tail, htext⟩ := List.exists_cons_of_ne_nil (List.ne_nil_of_mem hc)
      rw [htext, List.cons_append, List.head?_cons]
      intro h
      exact (hplain d (htext ▸ List.mem_cons_self)).2 (Option.some.inj h)
    rw [String.toList_ofList, List.append_assoc, List.append_assoc]
    exact (read_literal hhead).trans (literal_append hplain rest)
  next =>
    rw [String.toList_ofList, List.append_assoc, List.append_assoc]
    refine (read_basic ?_).trans (basic_flatMap_escape text.toList rest)
    cases text.toList with
    | nil => exact .inr hrest
    | cons c cs =>
      left
      rw [List.flatMap_cons, List.append_assoc]
      exact head?_escape c _

end Widgetry.Toml.Text
