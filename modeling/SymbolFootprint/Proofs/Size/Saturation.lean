import Mathlib.Algebra.BigOperators.Group.List.Basic
import Mathlib.Algebra.Order.BigOperators.Group.List
import Mathlib.Algebra.Order.Group.Nat
import Mathlib.Algebra.Ring.Nat
import SymbolFootprint.Size

/-!
Byte counts as a commutative monoid, so that sums of counts may be reordered and regrouped freely.
A sum of counts is the true sum cut off at the largest count (`bytes_sum`).
-/

namespace SymbolFootprint.Size

instance : AddCommMonoid Size where
  add_assoc := Size.add_assoc
  zero_add := Size.zero_add
  add_zero := Size.add_zero
  add_comm := Size.add_comm
  nsmul := nsmulRec

/-- A sum of counts is the true sum, cut off at the largest count. -/
theorem bytes_sum (sizes : List Size) :
    sizes.sum.bytes = min (2 ^ 64 - 1) (sizes.map Size.bytes).sum := by
  induction sizes with
  | nil => rfl
  | cons size rest inductionHypothesis =>
    rw [List.sum_cons, bytes_add, List.map_cons, List.sum_cons, inductionHypothesis]
    omega

theorem bytes_sum_clamp (numbers : List ℕ) :
    (numbers.map clamp).sum.bytes = min (2 ^ 64 - 1) numbers.sum := by
  induction numbers with
  | nil => rfl
  | cons number rest inductionHypothesis =>
    rw [List.map_cons, List.sum_cons, bytes_add, bytes_clamp, inductionHypothesis, List.sum_cons]
    omega

theorem bytes_le_bytes_sum {size : Size} {sizes : List Size} (membership : size ∈ sizes) :
    size.bytes ≤ sizes.sum.bytes := by
  have part : size.bytes ≤ (sizes.map Size.bytes).sum :=
    List.single_le_sum (fun _ _ => Nat.zero_le _) _ (List.mem_map_of_mem membership)
  have bounded := size.bounded
  rw [bytes_sum]
  omega

/-- The elements that fail a test and those that pass it together have all of the size. -/
theorem sum_filter_not_add_sum_filter {Item : Type*} (items : List Item) (test : Item → Bool)
    (size : Item → Size) :
    ((items.filter fun item => !test item).map size).sum + ((items.filter test).map size).sum =
      (items.map size).sum := by
  rw [add_comm, ← List.sum_append, ← List.map_append]
  exact ((List.filter_append_perm test items).map size).sum_eq

end SymbolFootprint.Size
