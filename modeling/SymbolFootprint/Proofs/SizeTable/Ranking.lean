import SymbolFootprint.Proofs.Size.Order
import SymbolFootprint.Proofs.SizeTable.Totals

/-!
The order of a ranking.

No two rows of a table share a key, so a ranking has a single order. It does not depend on the order
in which the rows of the table are visited (`ranked_of_visited`), and neither does the total
(`total_of_visited`). Rows that are known to be the largest ones stand in front (`take_ranked`).
-/

namespace SymbolFootprint.SizeTable

theorem ranksBefore_iff (a b : SizeRow) :
    ranksBefore a b = true ↔ a.2.descending a.1 ≤ b.2.descending b.1 := by
  simp [ranksBefore, Size.descending_le_iff]

theorem ranksBefore_of_lt {a b : SizeRow} (larger : b.2 < a.2) : ranksBefore a b = true := by
  simp [ranksBefore, larger]

/-- Sorting the rows of a table gives its ranking, in whatever order they are visited. -/
theorem ranked_of_visited {table : SizeTable} {visited : List SizeRow}
    (perm : visited.Perm table.rows) : visited.mergeSort ranksBefore = table.ranked := by
  apply mergeSort_of_perm ranksBefore_iff perm
  intro a _ b _ same
  obtain ⟨sizes, keys⟩ := Size.descending_inj.mp same
  exact Prod.ext keys sizes

theorem total_of_visited {table : SizeTable} {visited : List SizeRow}
    (perm : visited.Perm table.rows) : (visited.map Prod.snd).sum = table.total :=
  (perm.map Prod.snd).sum_eq

/-- Rows in order that rank before all others come first in the ranking. -/
theorem take_ranked {table : SizeTable} {front back : List SizeRow}
    (perm : table.rows.Perm (front ++ back))
    (sorted : front.Pairwise fun a b => ranksBefore a b = true)
    (before : ∀ a ∈ front, ∀ b ∈ back, ranksBefore a b = true) :
    table.ranked.take front.length = front := by
  have sortedBack : (back.mergeSort ranksBefore).Pairwise fun a b => ranksBefore a b = true :=
    (pairwise_mergeSort_of_keyed ranksBefore_iff back).imp (ranksBefore_iff _ _).mpr
  have whole : (front ++ back.mergeSort ranksBefore).Pairwise
      fun a b => ranksBefore a b = true := by
    rw [List.pairwise_append]
    refine ⟨sorted, sortedBack, ?_⟩
    intro a membership b inside
    exact before a membership b (List.mem_mergeSort.mp inside)
  have visited : (front ++ back.mergeSort ranksBefore).Perm table.rows :=
    ((List.mergeSort_perm back _).append_left front).trans perm.symm
  rw [← ranked_of_visited visited, List.mergeSort_of_pairwise whole, List.take_left]

end SymbolFootprint.SizeTable
