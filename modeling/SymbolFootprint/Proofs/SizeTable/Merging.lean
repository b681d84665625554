import SymbolFootprint.Proofs.SizeTable.Totals

/-!
Merging tables, key by key.

A merged table answers a key with what both tables answer, added up (`find?_merge`). It collects the
rows of both, so tables may be merged before or after their rows are collected
(`merge_collect_collect`), and the table of many tables has under each key the sum of what they have
there (`find?_collect_tables`).
-/

namespace SymbolFootprint.SizeTable

/-- The bytes that a table has under a key. A key that is not there has none. -/
def bytesUnder (key : String) (table : SizeTable) : Nat :=
  (table.find? key).elim 0 Size.bytes

@[simp]
theorem collect_rows (table : SizeTable) : collect table.rows = table := by
  apply ext_find?
  intro key
  rw [find?_collect, sizesUnder_rows]
  cases found : table.find? key with
  | none => simp [mem_keys_iff, found]
  | some size => simp [mem_keys_iff, found]

theorem merge_eq_collect (table other : SizeTable) :
    table.merge other = collect (table.rows ++ other.rows) := by
  rw [← merge_collect, collect_rows]

theorem find?_merge (table other : SizeTable) (key : String) :
    (table.merge other).find? key =
      Option.merge (· + ·) (table.find? key) (other.find? key) := by
  have present : key ∈ (table.rows ++ other.rows).map Prod.fst ↔
      (∃ size, table.find? key = some size) ∨ ∃ size, other.find? key = some size := by
    rw [List.map_append, List.mem_append, mem_keys_iff, mem_keys_iff]
  rw [merge_eq_collect, find?_collect, sizesUnder_append, sizesUnder_rows, sizesUnder_rows]
  cases own : table.find? key <;> cases others : other.find? key <;>
    rw [own, others] at present <;>
    simp [present, -List.map_append, Option.merge]

@[simp]
theorem empty_merge (table : SizeTable) : empty.merge table = table := by
  rw [merge_eq_collect, rows_empty, List.nil_append, collect_rows]

theorem merge_collect_collect (first second : List SizeRow) :
    (collect first).merge (collect second) = collect (first ++ second) := by
  rw [merge_collect]
  apply collect_congr
  · intro key
    simp only [List.map_append, List.mem_append, mem_keys_collect]
  · intro key
    simp only [sizesUnder_append, List.sum_append, sum_sizesUnder_collect]

/-- Rows may be replaced by others that make up the same table. -/
theorem collect_flatMap_congr {Item : Type*} {first second : Item → List SizeRow}
    (same : ∀ item, collect (first item) = collect (second item)) (items : List Item) :
    collect (items.flatMap first) = collect (items.flatMap second) := by
  induction items with
  | nil => rfl
  | cons item items inductionHypothesis =>
    simp only [List.flatMap_cons, ← merge_collect_collect, same, inductionHypothesis]

theorem sum_bytes_sizesUnder_tables (key : String) (tables : List SizeTable) :
    ((sizesUnder key (tables.flatMap rows)).map Size.bytes).sum =
      (tables.map (bytesUnder key)).sum := by
  induction tables with
  | nil => rfl
  | cons table tables inductionHypothesis =>
    simp only [List.flatMap_cons, sizesUnder_append, sizesUnder_rows, List.map_append,
      List.sum_append, inductionHypothesis, List.map_cons, List.sum_cons, bytesUnder]
    cases table.find? key <;> simp

/-- The rows of many tables make up a table that has the keys of all of them, each with the sum of
what the tables have under it, up to the largest count. -/
theorem find?_collect_tables {tables : List SizeTable} {key : String} {size : Size} :
    (collect (tables.flatMap rows)).find? key = some size ↔
      (∃ table ∈ tables, ∃ part, table.find? key = some part) ∧
      size.bytes = min (2 ^ 64 - 1) (tables.map (bytesUnder key)).sum := by
  have present : key ∈ (tables.flatMap rows).map Prod.fst ↔
      ∃ table ∈ tables, ∃ part, table.find? key = some part := by
    simp only [List.map_flatMap, List.mem_flatMap, mem_keys_iff]
  rw [find?_collect, ← present, ← sum_bytes_sizesUnder_tables, ← Size.bytes_sum]
  by_cases inside : key ∈ (tables.flatMap rows).map Prod.fst
  · simp only [inside, if_true, Option.some.injEq, true_and, Size.ext_iff, eq_comm]
  · simp only [inside, if_false, reduceCtorEq, false_and]

end SymbolFootprint.SizeTable
