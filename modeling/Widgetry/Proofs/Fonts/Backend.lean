import Widgetry.Monospace
import Widgetry.Proofs.Host.Ends

/-! What the calls of a monospace backend do. A font is made under the next number and put in the
table of live fonts; every other call looks a number up there. -/
namespace Widgetry.Monospace

variable {α : Type}

theorem size?_erase (m : Monospace α) (id other : UInt32) :
    (m.erase id).size? other = if other = id then none else m.size? other := by
  have hlookup (live : List (UInt32 × α)) : (live.filter (·.1 != id)).lookup other =
      if other = id then none else live.lookup other := by
    induction live with
    | nil => simp
    | cons entry live ih =>
      obtain ⟨key, size⟩ := entry
      by_cases hkey : key = id
      · subst hkey
        by_cases hother : other = key
        · simpa [hother] using ih
        · simpa [hother, List.lookup_cons, beq_eq_false_iff_ne.mpr hother] using ih
      · by_cases hother : other = key
        · subst hother
          simp [hkey]
        · simpa [hkey, List.lookup_cons, beq_eq_false_iff_ne.mpr hother] using ih
  exact hlookup m.live

theorem size?_insert (m : Monospace α) (id other : UInt32) (size : α) :
    (m.insert id size).size? other = if other = id then some size else m.size? other := by
  have herase := size?_erase m id other
  unfold size? erase at herase
  unfold size? insert
  by_cases hother : other = id
  · simp [hother]
  · simpa [hother, List.lookup_cons, beq_eq_false_iff_ne.mpr hother] using herase

/-- The number of the next font. After the last number comes zero. -/
def nextId (m : Monospace α) : UInt32 := m.lastId + 1

/-- The backend with one more font. -/
def cast (m : Monospace α) (size : α) : Monospace α :=
  { m with lastId := m.nextId }.insert m.nextId size

theorem size?_cast (m : Monospace α) (size : α) (id : UInt32) :
    (m.cast size).size? id = if id = m.nextId then some size else m.size? id :=
  size?_insert _ _ _ _

section Calls

variable [Scalar α] {style : TextStyle α} {font : FontHandle} {text : String} {m : Monospace α}

theorem run_createFont : (createFont style).run m =
    match style.validate false with
    | .ok _ => (.ok ⟨m.nextId, 1⟩, m.cast (Scalar.ofInt style.sizePx))
    | .error e => (.error e, m) := by
  unfold createFont
  cases style.validate false <;> rfl

omit [Scalar α] in
theorem run_destroyFont : (destroyFont font).run m =
    match m.size? font.id with
    | some _ => (.ok (), m.erase font.id)
    | none => (.error (.state .unknownFont), m) := by
  unfold destroyFont
  change (match m.size? font.id with | some _ => _ | none => _ : HostM _ Unit).run _ = _
  cases m.size? font.id <;> rfl

theorem run_measureText : (measureText font text).run m =
    match m.size? font.id with
    | some size => (.ok (metrics size text), m)
    | none => (.error (.state .unknownFont), m) := by
  unfold measureText
  change (match m.size? font.id with | some size => _ | none => _ : HostM _ _).run _ = _
  cases m.size? font.id <;> rfl

theorem ends_createFont {post : Except Error FontHandle → Monospace α → Prop} :
    Ends (createFont style) m post ↔
      match style.validate false with
      | .ok _ => post (.ok ⟨m.nextId, 1⟩) (m.cast (Scalar.ofInt style.sizePx))
      | .error e => post (.error e) m := by
  rw [Ends, run_createFont]
  cases style.validate false <;> exact Iff.rfl

omit [Scalar α] in
theorem ends_destroyFont {post : Except Error Unit → Monospace α → Prop} :
    Ends (destroyFont font) m post ↔
      match m.size? font.id with
      | some _ => post (.ok ()) (m.erase font.id)
      | none => post (.error (.state .unknownFont)) m := by
  rw [Ends, run_destroyFont]
  cases m.size? font.id <;> exact Iff.rfl

theorem ends_measureText {post : Except Error (TextMetrics α) → Monospace α → Prop} :
    Ends (measureText font text) m post ↔
      match m.size? font.id with
      | some size => post (.ok (metrics size text)) m
      | none => post (.error (.state .unknownFont)) m := by
  rw [Ends, run_measureText]
  cases m.size? font.id <;> exact Iff.rfl

end Calls

end Widgetry.Monospace
