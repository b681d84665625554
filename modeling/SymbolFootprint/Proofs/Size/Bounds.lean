import Mathlib.Algebra.Order.Monoid.Defs
import SymbolFootprint.Proofs.Size.Saturation

/-!
Sums of byte counts, and their order.

Adding counts keeps their order, also where the sum stops at the largest count. So the library's
facts on sums of lists hold of counts: a sum of smaller counts is smaller, and no part is larger
than the sum (`le_sum`).
-/

namespace SymbolFootprint.Size

instance : PartialOrder Size where
  le_refl size := Nat.le_refl size.bytes
  le_trans _ _ _ := Nat.le_trans
  le_antisymm _ _ before after := Size.ext (Nat.le_antisymm before after)
  lt_iff_le_not_ge _ _ := Nat.lt_iff_le_and_not_ge

instance : IsOrderedAddMonoid Size where
  add_le_add_left first second before other := by
    simp only [le_iff, bytes_add] at before ⊢
    omega

protected theorem zero_le (size : Size) : 0 ≤ size :=
  Nat.zero_le size.bytes

theorem le_sum {size : Size} {sizes : List Size} (membership : size ∈ sizes) :
    size ≤ sizes.sum :=
  List.single_le_sum (fun part _ => Size.zero_le part) size membership

end SymbolFootprint.Size
