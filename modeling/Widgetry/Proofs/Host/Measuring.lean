import Widgetry.Proofs.Host.Agreeing

/-! Geometry asks its host for nothing but labels: it keeps what measuring a label keeps. -/
namespace Widgetry

variable {α σ : Type} {inv : σ → Prop}

namespace OwnedFont

variable {τ β : Type} {font : OwnedFont} {inv' : τ → Prop}

/-- Calls that measure in the held font keep `inv`. -/
def Measures (α : Type) [TextHost α σ] (font : OwnedFont) (inv : σ → Prop) : Prop :=
  ∀ handle, font.handle? = some handle →
    ∀ text, Keeps inv (TextHost.measureText (α := α) handle text)

/-- Calls that draw in the held font keep `inv`. -/
def Draws (α : Type) [PaintHost α σ] (font : OwnedFont) (inv : σ → Prop) : Prop :=
  ∀ handle, font.handle? = some handle → ∀ text x y color,
    Keeps inv (PaintHost.drawText (α := α) handle text x y color)

theorem keeps_handle {act : FontHandle → HostM τ β}
    (ha : ∀ handle, font.handle? = some handle → Keeps inv' (act handle)) :
    Keeps inv' ((liftExcept font.handle : HostM τ FontHandle) >>= act) :=
  keeps_liftExcept_bind fun handle hf => ha handle (handle_eq_ok.mp hf)

theorem keeps_measurer [TextHost α σ] (hm : font.Measures α inv)
    {act : Measurer α σ → HostM τ β}
    (ha : ∀ measurer, (∀ text, Keeps inv (measurer text)) → Keeps inv' (act measurer)) :
    Keeps inv' ((liftExcept font.measurer : HostM τ (Measurer α σ)) >>= act) := by
  refine keeps_liftExcept_bind fun measurer h => ?_
  obtain ⟨handle, hf, rfl⟩ := measurer_eq_ok.mp h
  exact ha _ (hm handle hf)

end OwnedFont

/-- Drawing a rectangle keeps `inv`. -/
def DrawsRects (α : Type) [PaintHost α σ] (inv : σ → Prop) : Prop :=
  ∀ r color corner, Keeps inv (PaintHost.drawRect (α := α) r color corner)

variable [Scalar α] {measurer : Measurer α σ} (hm : ∀ text, Keeps inv (measurer text))
include hm

namespace TabStyle

variable (s : TabStyle α)

theorem keeps_measureContent (items : List String) :
    Keeps inv (s.measureContent measurer items) :=
  keeps_iff.mpr (s.accord_measureContent (fun text => keeps_iff.mp (hm text)) items)

theorem keeps_computeLayout (items : List String) (bounds : Rect α) :
    Keeps inv (s.computeLayout measurer items bounds) :=
  keeps_iff.mpr (s.accord_computeLayout (fun text => keeps_iff.mp (hm text)) items bounds)

theorem keeps_indicatorTarget (items : List String) (l : TabLayout α) (selected : Option Nat) :
    Keeps inv (s.indicatorTarget measurer items l selected) :=
  keeps_iff.mpr (s.accord_indicatorTarget (fun text => keeps_iff.mp (hm text)) items l selected)

theorem keeps_itemRect (items : List String) (l : TabLayout α) (index : Nat) (scroll : α) :
    Keeps inv (s.itemRect measurer items l index scroll) :=
  keeps_iff.mpr (s.accord_itemRect (fun text => keeps_iff.mp (hm text)) items l index scroll)

theorem keeps_hitTest (items : List String) (l : TabLayout α) (x y scroll : α) :
    Keeps inv (s.hitTest measurer items l x y scroll) :=
  keeps_iff.mpr (s.accord_hitTest (fun text => keeps_iff.mp (hm text)) items l x y scroll)

end TabStyle

namespace SegmentStyle

variable (s : SegmentStyle α)

theorem keeps_measureContent (items : List String) :
    Keeps inv (s.measureContent measurer items) :=
  keeps_iff.mpr (s.accord_measureContent (fun text => keeps_iff.mp (hm text)) items)

theorem keeps_computeLayout (items : List String) (bounds : Rect α) :
    Keeps inv (s.computeLayout measurer items bounds) :=
  keeps_iff.mpr (s.accord_computeLayout (fun text => keeps_iff.mp (hm text)) items bounds)

end SegmentStyle

end Widgetry
