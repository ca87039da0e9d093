import Widgetry.Proofs.Host.Agree
import Widgetry.Segmented.Layout
import Widgetry.Tabs.Layout

/-! Geometry cannot tell two measurers apart that answer alike. -/
namespace Widgetry

variable {α σ τ : Type} [Scalar α] {loss : Prop} {R : σ → τ → Prop}
  {measurer : Measurer α σ} {measurer' : Measurer α τ}
  (hm : ∀ text, Accord loss R (measurer text) (measurer' text))
include hm

theorem LabelExtents.accord_measure (items : List String) :
    Accord loss R (LabelExtents.measure measurer items) (LabelExtents.measure measurer' items) := by
  have hgo (e : LabelExtents α) : Accord loss R (LabelExtents.measure.go measurer e items)
      (LabelExtents.measure.go measurer' e items) := by
    induction items generalizing e with
    | nil => exact .pure e
    | cons item rest ih =>
      unfold LabelExtents.measure.go
      exact .ite (fun _ => ih e) fun _ => (hm item).bind fun m => ih (e.join m)
  exact hgo .zero

namespace TabStyle

variable (s : TabStyle α)

theorem accord_itemWidth (item : String) :
    Accord loss R (s.itemWidth measurer item) (s.itemWidth measurer' item) := by
  refine Accord.bind ?_ fun _ => .pure _
  exact .ite (fun _ => .pure _) fun _ => hm item

theorem accord_scrollableOffset (offset : α) (items : List String) :
    Accord loss R (s.scrollableOffset measurer offset items)
      (s.scrollableOffset measurer' offset items) := by
  induction items generalizing offset with
  | nil => exact .pure offset
  | cons item rest ih => exact (s.accord_itemWidth hm item).bind fun w => ih _

theorem accord_scrollableRun (total : α) (items : List String) :
    Accord loss R (s.scrollableRun measurer total items)
      (s.scrollableRun measurer' total items) := by
  induction items generalizing total with
  | nil => exact .pure total
  | cons item rest ih =>
    cases rest with
    | nil => exact (s.accord_itemWidth hm item).bind fun _ => .pure _
    | cons next rest => exact (s.accord_itemWidth hm item).bind fun w => ih (total + w + s.spacing)

theorem accord_measureContent (items : List String) :
    Accord loss R (s.measureContent measurer items) (s.measureContent measurer' items) := by
  refine (Accord.check _).bind fun _ => ?_
  refine (LabelExtents.accord_measure hm items).bind fun extents => ?_
  dsimp only
  cases s.mode with
  | fixed => exact .pure _
  | scrollable => exact (s.accord_scrollableRun hm 0 items).bind fun _ => .pure _

theorem accord_widths (items : List String) (available : α) :
    Accord loss R (s.widths measurer items available) (s.widths measurer' items available) := by
  unfold widths
  split
  · exact (Accord.check _).bind fun _ => .pure _
  · exact (s.accord_scrollableRun hm 0 items).bind fun _ => .pure _

theorem accord_computeLayout (items : List String) (bounds : Rect α) :
    Accord loss R (s.computeLayout measurer items bounds)
      (s.computeLayout measurer' items bounds) := by
  refine (Accord.check _).bind fun _ => ?_
  refine (Accord.check _).bind fun _ => ?_
  refine (Accord.check _).bind fun available => ?_
  refine (LabelExtents.accord_measure hm items).bind fun extents => ?_
  refine (Accord.check _).bind fun band => ?_
  refine (s.accord_widths hm items available.width).bind fun widths => ?_
  exact .ite (fun _ => .throw _) fun _ => .pure _

theorem accord_itemSpan (items : List String) (l : TabLayout α) (index : Nat) (item : String) :
    Accord loss R (s.itemSpan measurer items l index item)
      (s.itemSpan measurer' items l index item) := by
  unfold itemSpan
  split
  · exact .pure _
  · refine (s.accord_scrollableOffset hm 0 _).bind fun start => ?_
    exact (s.accord_itemWidth hm item).bind fun _ => .pure _

theorem accord_indicatorTarget (items : List String) (l : TabLayout α) (selected : Option Nat) :
    Accord loss R (s.indicatorTarget measurer items l selected)
      (s.indicatorTarget measurer' items l selected) := by
  unfold indicatorTarget
  split
  · exact .pure _
  · split
    · exact .throw _
    · refine (s.accord_itemSpan hm items l _ _).bind fun span => ?_
      exact .ite (fun _ => .throw _) fun _ => .pure _

theorem accord_itemRect (items : List String) (l : TabLayout α) (index : Nat) (scroll : α) :
    Accord loss R (s.itemRect measurer items l index scroll)
      (s.itemRect measurer' items l index scroll) := by
  unfold itemRect
  split
  · exact .throw _
  · refine (s.accord_itemSpan hm items l _ _).bind fun span => ?_
    exact .ite (fun _ => .throw _) fun _ => .pure _

theorem accord_walk (l : TabLayout α) (index : Nat) (pos : α) (items : List String) :
    Accord loss R (s.walk measurer l index pos items) (s.walk measurer' l index pos items) := by
  induction items generalizing index pos with
  | nil => exact .pure none
  | cons item rest ih =>
    refine (s.accord_itemWidth hm item).bind fun width => ?_
    refine .ite (fun _ => .pure _) fun _ => .ite (fun _ => .pure _) fun _ => ?_
    exact .ite (fun _ => .pure _) fun _ => ih _ _

theorem accord_hitTest (items : List String) (l : TabLayout α) (x y scroll : α) :
    Accord loss R (s.hitTest measurer items l x y scroll)
      (s.hitTest measurer' items l x y scroll) := by
  unfold hitTest
  refine .ite (fun _ => .pure _) fun _ => .ite (fun _ => .pure _) fun _ => ?_
  split
  · exact .ite (fun _ => .pure _) fun _ => .check _
  · exact .ite (fun _ => .pure _) fun _ => s.accord_walk hm l 0 _ items

end TabStyle

namespace SegmentStyle

variable (s : SegmentStyle α)

theorem accord_measureContent (items : List String) :
    Accord loss R (s.measureContent measurer items) (s.measureContent measurer' items) :=
  (Accord.check _).bind fun _ => (LabelExtents.accord_measure hm items).bind fun _ => .pure _

theorem accord_computeLayout (items : List String) (bounds : Rect α) :
    Accord loss R (s.computeLayout measurer items bounds)
      (s.computeLayout measurer' items bounds) := by
  refine (Accord.check _).bind fun _ => (Accord.check _).bind fun _ => ?_
  refine (Accord.check _).bind fun available => ?_
  refine (LabelExtents.accord_measure hm items).bind fun extents => ?_
  exact (Accord.check _).bind fun band => (Accord.check _).bind fun _ => .pure _

end SegmentStyle

end Widgetry
