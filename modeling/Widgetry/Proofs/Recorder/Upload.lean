import Mathlib.Data.Nat.Digits.Defs
import Widgetry.Proofs.Recorder.Triangles

/-! The bytes of a frame for the upload. A vertex takes 24 of them, a number of it four, lowest
first, and what is read from their place is the number that was written. -/
namespace Widgetry

namespace Binary

theorem signBit_binary32 : Format.binary32.signBit = 2 ^ 31 := by decide

theorem special_binary32 : Format.binary32.special * Format.binary32.hidden < 2 ^ 31 := by decide

/-- A code takes four bytes. -/
theorem toBits_lt (x : Binary32) : x.toBits < 2 ^ 32 := by
  have hsign := signBit_binary32
  have hspecial := special_binary32
  have hhalf (s : Bool) {code : Nat} (h : code < 2 ^ 31) :
      s.toNat * Format.binary32.signBit + code < 2 ^ 32 := by
    cases s <;> simp only [Bool.toNat_false, Bool.toNat_true] <;> omega
  cases x with
  | nan => decide
  | infinite s => exact hhalf s hspecial
  | finite s m hm => exact hhalf s ((Format.encode_lt hm).trans hspecial)

theorem length_bytes (x : Binary32) : x.bytes.length = 4 := by
  rw [bytes, List.length_map, List.length_range]

/-- What bytes encode, lowest first. -/
def code (bytes : List UInt8) : Nat := Nat.ofDigits 256 (bytes.map UInt8.toNat)

theorem code_bytes (x : Binary32) : code x.bytes = x.toBits := by
  have hlt := x.toBits_lt
  simp only [code, bytes, List.range_succ, List.range_zero, List.nil_append, List.cons_append,
    List.map_cons, List.map_nil, UInt8.toNat_ofNat', Nat.shiftRight_eq_div_pow,
    Nat.ofDigits_cons, Nat.ofDigits_nil]
  omega

end Binary

namespace Vertex

theorem length_numbers {α : Type} (v : Vertex α) : v.numbers.length = 6 := rfl

theorem length_bytes (v : Vertex Binary32) : v.bytes.length = 24 := by
  rw [bytes, length_flatMap_of_length Binary.length_bytes, length_numbers]

/-- Where a number of a vertex stands in the buffer. -/
theorem slice_buffer {vertices : List (Vertex Binary32)} {i j : Nat} {v : Vertex Binary32}
    {x : Binary32} (hv : vertices[i]? = some v) (hx : v.numbers[j]? = some x) :
    ((buffer vertices).drop (24 * i + 4 * j)).take 4 = x.bytes := by
  have hvertex : ((buffer vertices).drop (24 * i)).take 24 = v.bytes :=
    slice_flatMap length_bytes hv
  have hnumber : (v.bytes.drop (4 * j)).take 4 = x.bytes := slice_flatMap Binary.length_bytes hx
  have hj : j < 6 := (List.getElem?_eq_some_iff.mp hx).1
  rw [← hnumber, ← hvertex, List.drop_take, List.take_take, List.drop_drop,
    Nat.min_eq_left (by omega)]

end Vertex

/-- The bytes of these vertices: 24 for each, and from those of a number its code is read back. The
code of a NaN is always the one of `Binary.toBits`, so nothing is said of the payload of a NaN. -/
structure Uploads (vertices : List (Vertex Binary32)) (bytes : List UInt8) : Prop where
  length : bytes.length = 24 * vertices.length
  reads : ∀ (i j : Nat) (v : Vertex Binary32) (x : Binary32), vertices[i]? = some v →
    v.numbers[j]? = some x →
      Binary.code ((bytes.drop (24 * i + 4 * j)).take 4) = x.toBits ∧
      Binary.ofBits (Binary.code ((bytes.drop (24 * i + 4 * j)).take 4)) = x

theorem Vertex.uploads (vertices : List (Vertex Binary32)) :
    Uploads vertices (buffer vertices) where
  length := length_flatMap_of_length length_bytes
  reads i j v x hv hx := by
    rw [slice_buffer hv hx, Binary.code_bytes]
    exact ⟨rfl, Binary.ofBits_toBits (by decide) x⟩

namespace Recorder

/-- The draw calls since a frame began are its commands, which are its rectangles and its texts,
each in order. The frame has six vertices for each rectangle, in that order and in its colour, and
none for a text. In exact arithmetic those of a rectangle with an extent are two triangles that turn
the same way, share the diagonal and cover the rectangle. The bytes for the upload are 24 for each
vertex, and every number of it is read back from them bit for bit, but for the payload of a NaN. -/
theorem frame_determines_vertices :
    (∀ {α : Type} [Scalar α] (r : Recorder α) (draws : List (PaintCommand α)),
      Ends (PaintCommand.drawAll draws) r.beginFrame fun res frame =>
        res = .ok () ∧ Records draws frame) ∧
    (∀ (r : Recorder Rat) (draws : List (PaintCommand Rat)),
      Ends (PaintCommand.drawAll draws) r.beginFrame fun _ frame =>
        ∀ (i : Nat) (run : RectRun Rat), frame.rects[i]? = some run →
          0 < run.bounds.width → 0 < run.bounds.height →
          ∃ t t', ((Triangle.ofVertices frame.vertices).drop (2 * i)).take 2 = [t, t'] ∧
            Halves run.bounds t t') ∧
    ∀ vertices : List (Vertex Binary32), Uploads vertices (Vertex.buffer vertices) := by
  refine ⟨fun r draws => ?_, fun r draws => ?_, Vertex.uploads⟩
  · apply (ends_frame r draws).imp
    rintro _ _ ⟨rfl, rfl⟩
    exact ⟨rfl, records draws⟩
  · exact (ends_frame r draws).imp fun _ _ _ i run => triangles_of_rect

/-- A rectangle, a text on it and another rectangle. -/
def card : List (PaintCommand Rat) :=
  [.rect ⟨0, 0, 100, 80⟩ .white 0, .text ⟨1, 1⟩ "Home" 4 20 .black, .rect ⟨10, 20, 30, 40⟩ .black 4]

theorem frame_determines_vertices_card :
    Records card ⟨card⟩ ∧ (⟨card⟩ : Recorder Rat).vertices.length = 12 ∧
      ∃ t t', ((Triangle.ofVertices (⟨card⟩ : Recorder Rat).vertices).drop 2).take 2 = [t, t'] ∧
        Halves ⟨10, 20, 30, 40⟩ t t' := by
  obtain ⟨hframe, htriangles, -⟩ := frame_determines_vertices
  have hwidth : (0 : Rat) < 30 := by norm_num
  have hheight : (0 : Rat) < 40 := by norm_num
  exact ⟨(hframe .empty card).2, rfl, htriangles .empty card 1 _ rfl hwidth hheight⟩

end Recorder

end Widgetry
