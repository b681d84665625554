import Mathlib.Data.List.Sort
import Mathlib.Data.Prod.Lex
import Mathlib.Order.OrderDual
import SymbolFootprint.Size

/-!
Lists in the order of sizes.

Where a comparison goes by a key from a linear order, sorting does not depend on the order of the
list, as long as different elements have different keys (`mergeSort_of_perm`), and elements with a
common key stay in the order of the list (`filter_mergeSort_of_keyed`). Rankings compare by size
from the largest to the smallest, and by a second key where sizes are equal (`descending_le_iff`).
-/

namespace SymbolFootprint

section Sorting

variable {Item Key : Type*} [LinearOrder Key] {le : Item → Item → Bool} {key : Item → Key}
  (keyed : ∀ a b, le a b = true ↔ key a ≤ key b)

include keyed

theorem trans_of_keyed (a b c : Item) (first : le a b = true) (second : le b c = true) :
    le a c = true := by
  rw [keyed] at first second ⊢
  exact first.trans second

theorem total_of_keyed (a b : Item) : (le a b || le b a) = true := by
  rw [Bool.or_eq_true, keyed, keyed]
  exact le_total (key a) (key b)

theorem pairwise_mergeSort_of_keyed (items : List Item) :
    (items.mergeSort le).Pairwise fun a b => key a ≤ key b := by
  have sorted : (items.mergeSort le).Pairwise fun a b => le a b = true :=
    List.pairwise_mergeSort (trans_of_keyed keyed) (total_of_keyed keyed) items
  exact sorted.imp fun before => (keyed _ _).mp before

/-- Sorting leaves elements with a common key in the order in which they are listed. -/
theorem filter_mergeSort_of_keyed {keep : Item → Bool}
    (common : ∀ a b, keep a = true → keep b = true → key a = key b) (items : List Item) :
    (items.mergeSort le).filter keep = items.filter keep := by
  have sorted : (items.filter keep).Pairwise fun a b => le a b = true := by
    apply List.pairwise_of_forall_mem_list
    intro a membership b otherMembership
    rw [keyed, common a b (List.of_mem_filter membership) (List.of_mem_filter otherMembership)]
  have sublist : (items.filter keep).Sublist (items.mergeSort le) :=
    List.sublist_mergeSort (trans_of_keyed keyed) (total_of_keyed keyed) sorted
      List.filter_sublist
  have kept : (items.filter keep).Sublist ((items.mergeSort le).filter keep) := by
    have filtered := sublist.filter keep
    rwa [List.filter_filter, funext fun a => Bool.and_self (keep a)] at filtered
  have lengths := ((List.mergeSort_perm items le).filter keep).length_eq
  exact (kept.eq_of_length lengths.symm).symm

/-- A list whose elements are told apart by their keys has a single order. -/
theorem mergeSort_of_perm {items others : List Item} (perm : others.Perm items)
    (distinct : ∀ a ∈ items, ∀ b ∈ items, key a = key b → a = b) :
    others.mergeSort le = items.mergeSort le := by
  have same : (others.mergeSort le).Perm (items.mergeSort le) :=
    (List.mergeSort_perm others le).trans (perm.trans (List.mergeSort_perm items le).symm)
  refine same.eq_of_pairwise ?_ (pairwise_mergeSort_of_keyed keyed others)
    (pairwise_mergeSort_of_keyed keyed items)
  intro a b membership otherMembership before after
  apply distinct
  · exact perm.mem_iff.mp (List.mem_mergeSort.mp membership)
  · exact List.mem_mergeSort.mp otherMembership
  · exact le_antisymm before after

end Sorting

namespace Size

variable {Key : Type*}

def descending (size : Size) (key : Key) : ℕᵒᵈ ×ₗ Key :=
  toLex (OrderDual.toDual size.bytes, key)

theorem descending_le_iff [LE Key] {first second : Size} {firstKey secondKey : Key} :
    descending first firstKey ≤ descending second secondKey ↔
      second < first ∨ first = second ∧ firstKey ≤ secondKey := by
  rw [descending, descending, Prod.Lex.toLex_le_toLex, OrderDual.toDual_lt_toDual,
    OrderDual.toDual_inj, Size.ext_iff, Size.lt_iff]

theorem descending_lt_iff [LT Key] {first second : Size} {firstKey secondKey : Key} :
    descending first firstKey < descending second secondKey ↔
      second < first ∨ first = second ∧ firstKey < secondKey := by
  rw [descending, descending, Prod.Lex.toLex_lt_toLex, OrderDual.toDual_lt_toDual,
    OrderDual.toDual_inj, Size.ext_iff, Size.lt_iff]

theorem descending_inj {first second : Size} {firstKey secondKey : Key} :
    descending first firstKey = descending second secondKey ↔
      first = second ∧ firstKey = secondKey := by
  rw [descending, descending, toLex_inj, Prod.mk.injEq, OrderDual.toDual_inj, Size.ext_iff]

end Size

end SymbolFootprint
