import Mathlib.Data.List.Induction
import SymbolFootprint.Proofs.Size.Saturation
import SymbolFootprint.Proofs.SizeTable.Lookup

/-!
Collecting rows into a table, and merging tables.

A collected table answers each key with the sum of the sizes that the rows give under it
(`find?_collect`). So the order of the rows does not matter (`collect_perm`), and neither does it
matter whether rows are collected at once or in parts that are merged (`collect_parts`). The total
of a table is the sum of all sizes (`total_collect`).
-/

namespace SymbolFootprint.SizeTable

def sizesUnder (key : String) (rows : List SizeRow) : List Size :=
  (rows.filter (·.1 = key)).map Prod.snd

@[simp]
theorem sizesUnder_nil (key : String) : sizesUnder key [] = [] := rfl

@[simp]
theorem sizesUnder_append (key : String) (first second : List SizeRow) :
    sizesUnder key (first ++ second) = sizesUnder key first ++ sizesUnder key second := by
  simp [sizesUnder]

theorem sizesUnder_cons (key : String) (row : SizeRow) (rest : List SizeRow) :
    sizesUnder key (row :: rest) =
      if row.1 = key then row.2 :: sizesUnder key rest else sizesUnder key rest := by
  by_cases equal : row.1 = key <;> simp [sizesUnder, equal]

theorem sizesUnder_filter {keep : String → Bool} {key : String} (kept : keep key = true)
    (rows : List SizeRow) :
    sizesUnder key (rows.filter fun row => keep row.1) = sizesUnder key rows := by
  rw [sizesUnder, List.filter_filter, sizesUnder]
  congr 1
  apply List.filter_congr
  intro row _
  by_cases equal : row.1 = key <;> simp [equal, kept]

theorem sizesUnder_eq_nil {key : String} {rows : List SizeRow}
    (absent : key ∉ rows.map Prod.fst) : sizesUnder key rows = [] := by
  rw [sizesUnder, List.map_eq_nil_iff, List.filter_eq_nil_iff]
  intro row membership equal
  exact absent (List.mem_map.mpr ⟨row, membership, of_decide_eq_true equal⟩)

theorem sizesUnder_rows (table : SizeTable) (key : String) :
    sizesUnder key table.rows = (table.find? key).toList := by
  obtain ⟨rows, sorted⟩ := table
  simp only [find?]
  induction rows with
  | nil => rfl
  | cons row rest inductionHypothesis =>
    obtain ⟨k, size⟩ := row
    rw [sizesUnder_cons, lookup_cons_row]
    by_cases equal : k = key
    · have absent : key ∉ rest.map Prod.fst := by
        rw [← equal, ← lookup_eq_none_iff]
        exact lookup_eq_none_of_before fun _ inside => List.rel_of_pairwise_cons sorted inside
      simp [equal, sizesUnder_eq_nil absent]
    · rw [if_neg equal, if_neg (Ne.symm equal)]
      exact inductionHypothesis sorted.of_cons

section Collecting

@[simp]
theorem collect_nil : collect [] = empty := rfl

theorem collect_append (first second : List SizeRow) :
    collect (first ++ second) =
      second.foldl (fun table row => table.add row.1 row.2) (collect first) :=
  List.foldl_append

/-- A collected table answers a key with the sum of the sizes under it. -/
theorem find?_collect (rows : List SizeRow) (key : String) :
    (collect rows).find? key =
      if key ∈ rows.map Prod.fst then some (sizesUnder key rows).sum else none := by
  induction rows using List.reverseRecOn with
  | nil => simp
  | append_singleton rows row inductionHypothesis =>
    rw [collect_append, List.foldl_cons, List.foldl_nil, find?_add]
    by_cases equal : key = row.1
    · subst equal
      rw [if_pos rfl, if_pos (by simp), inductionHypothesis, sizesUnder_append,
        sizesUnder_cons, if_pos rfl, List.sum_append]
      by_cases present : row.1 ∈ rows.map Prod.fst
      · simp [present]
      · simp [present, sizesUnder_eq_nil present]
    · have keys : key ∈ (rows ++ [row]).map Prod.fst ↔ key ∈ rows.map Prod.fst := by
        simp only [List.map_append, List.map_cons, List.map_nil, List.mem_append,
          List.mem_singleton, equal, or_false]
      have sizes : sizesUnder key (rows ++ [row]) = sizesUnder key rows := by
        rw [sizesUnder_append, sizesUnder_cons, if_neg (Ne.symm equal), sizesUnder_nil,
          List.append_nil]
      rw [if_neg equal, inductionHypothesis, sizes, if_congr keys rfl rfl]

theorem find?_collect_filter (keep : String → Bool) (rows : List SizeRow) (key : String) :
    (collect (rows.filter fun row => keep row.1)).find? key =
      if keep key = true then (collect rows).find? key else none := by
  rw [find?_collect, find?_collect]
  by_cases kept : keep key = true
  · rw [sizesUnder_filter kept, if_pos kept]
    refine if_congr ?_ rfl rfl
    simp only [List.mem_map, List.mem_filter]
    constructor
    · rintro ⟨row, ⟨membership, _⟩, equal⟩
      exact ⟨row, membership, equal⟩
    · rintro ⟨row, membership, equal⟩
      exact ⟨row, ⟨membership, by rwa [equal]⟩, equal⟩
  · rw [if_neg kept, if_neg]
    intro membership
    rcases List.mem_map.mp membership with ⟨row, present, equal⟩
    exact kept (equal ▸ (List.mem_filter.mp present).2)

theorem mem_keys_iff {table : SizeTable} {key : String} :
    key ∈ table.rows.map Prod.fst ↔ ∃ size, table.find? key = some size := by
  rw [← not_iff_not, ← lookup_eq_none_iff, ← find?]
  cases table.find? key <;> simp

@[simp]
theorem mem_keys_collect {rows : List SizeRow} {key : String} :
    key ∈ (collect rows).rows.map Prod.fst ↔ key ∈ rows.map Prod.fst := by
  rw [mem_keys_iff, find?_collect]
  by_cases present : key ∈ rows.map Prod.fst <;> simp [present]

theorem sum_sizesUnder_collect (rows : List SizeRow) (key : String) :
    (sizesUnder key (collect rows).rows).sum = (sizesUnder key rows).sum := by
  rw [sizesUnder_rows, find?_collect]
  by_cases present : key ∈ rows.map Prod.fst
  · simp [present]
  · simp [present, sizesUnder_eq_nil present]

/-- Rows with the same keys and the same sums under them make up the same table. -/
theorem collect_congr {first second : List SizeRow}
    (keys : ∀ key, key ∈ first.map Prod.fst ↔ key ∈ second.map Prod.fst)
    (sums : ∀ key, (sizesUnder key first).sum = (sizesUnder key second).sum) :
    collect first = collect second := by
  apply ext_find?
  intro key
  rw [find?_collect, find?_collect, sums key]
  exact if_congr (keys key) rfl rfl

theorem collect_perm {first second : List SizeRow} (perm : first.Perm second) :
    collect first = collect second := by
  apply collect_congr
  · intro key
    exact (perm.map Prod.fst).mem_iff
  · intro key
    exact ((perm.filter _).map Prod.snd).sum_eq

theorem find?_collect_append_of_absent {first second : List SizeRow} {key : String}
    (absent : key ∉ second.map Prod.fst) :
    (collect (first ++ second)).find? key = (collect first).find? key := by
  rw [find?_collect, find?_collect, sizesUnder_append, sizesUnder_eq_nil absent, List.append_nil]
  apply if_congr _ rfl rfl
  rw [List.map_append, List.mem_append]
  exact or_iff_left absent

theorem find?_collect_of_single_key {rows : List SizeRow} {key : String} (nonempty : rows ≠ [])
    (same : ∀ row ∈ rows, row.1 = key) :
    (collect rows).find? key = some (rows.map Prod.snd).sum := by
  obtain ⟨row, membership⟩ := List.exists_mem_of_ne_nil rows nonempty
  have present : key ∈ rows.map Prod.fst := List.mem_map.mpr ⟨row, membership, same row membership⟩
  have all : rows.filter (·.1 = key) = rows := by
    rw [List.filter_eq_self]
    exact fun row inside => decide_eq_true (same row inside)
  rw [find?_collect, if_pos present, sizesUnder, all]

/-- Neighbouring rows under one key may be added first. -/
theorem collect_cons_cons (key : String) (first second : Size) (rest : List SizeRow) :
    collect ((key, first) :: (key, second) :: rest) = collect ((key, first + second) :: rest) := by
  apply collect_congr
  · intro query
    simp
  · intro query
    simp only [sizesUnder_cons]
    split
    · simp only [List.sum_cons, add_assoc]
    · rfl

theorem upsert_perm (combine : Size → Size → Size) {key : String} {rows : List SizeRow}
    (absent : key ∉ rows.map Prod.fst) (amount : Size) :
    (upsert combine key amount rows).Perm ((key, amount) :: rows) := by
  induction rows with
  | nil => exact List.Perm.refl _
  | cons row rest inductionHypothesis =>
    simp only [List.map_cons, List.mem_cons, not_or] at absent
    unfold upsert
    rw [if_neg absent.1]
    split
    · exact List.Perm.refl _
    · exact ((inductionHypothesis absent.2).cons row).trans (List.Perm.swap ..)

theorem rows_collect_perm {rows : List SizeRow} (distinct : (rows.map Prod.fst).Nodup) :
    (collect rows).rows.Perm rows := by
  induction rows using List.reverseRecOn with
  | nil => exact List.Perm.refl _
  | append_singleton rows row inductionHypothesis =>
    rw [List.map_append, List.map_singleton, List.nodup_append_comm] at distinct
    obtain ⟨absent, distinctRows⟩ := List.nodup_cons.mp distinct
    have perm := inductionHypothesis distinctRows
    rw [collect_append]
    apply (upsert_perm _ _ _).trans
    · exact (perm.cons row).trans (List.perm_append_singleton row rows).symm
    · rwa [(perm.map Prod.fst).mem_iff]

end Collecting

section Merging

/-- Rows may be collected in parts: collecting the rows of the collected parts is collecting all of
the rows. -/
theorem collect_parts (parts : List (List SizeRow)) :
    collect (parts.map fun part => (collect part).rows).flatten = collect parts.flatten := by
  apply collect_congr
  · intro key
    induction parts with
    | nil => rfl
    | cons part parts inductionHypothesis =>
      rw [List.map_cons, List.flatten_cons, List.flatten_cons, List.map_append, List.map_append,
        List.mem_append, List.mem_append, mem_keys_collect, inductionHypothesis]
  · intro key
    induction parts with
    | nil => rfl
    | cons part parts inductionHypothesis =>
      rw [List.map_cons, List.flatten_cons, List.flatten_cons, sizesUnder_append,
        sizesUnder_append, List.sum_append, List.sum_append, sum_sizesUnder_collect,
        inductionHypothesis]

theorem merge_collect (rows : List SizeRow) (other : SizeTable) :
    (collect rows).merge other = collect (rows ++ other.rows) :=
  (collect_append rows other.rows).symm

end Merging

section Total

theorem sum_upsert (key : String) (amount : Size) (rows : List SizeRow) :
    ((upsert (· + ·) key amount rows).map Prod.snd).sum = amount + (rows.map Prod.snd).sum := by
  induction rows with
  | nil => rfl
  | cons row rest inductionHypothesis =>
    obtain ⟨k, size⟩ := row
    unfold upsert
    split
    · rfl
    · split
      · simp only [List.map_cons, List.sum_cons]
        rw [add_comm size amount, add_assoc]
      · simp only [List.map_cons, List.sum_cons, inductionHypothesis]
        rw [add_left_comm]

theorem total_collect (rows : List SizeRow) :
    (collect rows).total = (rows.map Prod.snd).sum := by
  induction rows using List.reverseRecOn with
  | nil => rfl
  | append_singleton rows row inductionHypothesis =>
    rw [collect_append, List.foldl_cons, List.foldl_nil, total, add, sum_upsert, ← total,
      inductionHypothesis, List.map_append, List.sum_append, add_comm]
    simp

end Total

section Restricting

/-- The part of a table under the keys that pass a test. -/
def restrict (keep : String → Bool) (table : SizeTable) : SizeTable :=
  ⟨table.rows.filter fun row => keep row.1, table.sorted.filter _⟩

theorem find?_restrict (keep : String → Bool) (table : SizeTable) (key : String) :
    (table.restrict keep).find? key = if keep key = true then table.find? key else none := by
  apply Option.ext
  intro size
  rw [find?_eq_some_iff, restrict, List.mem_filter, ← find?_eq_some_iff]
  by_cases kept : keep key = true <;> simp [kept]

theorem collect_filter (keep : String → Bool) (rows : List SizeRow) :
    collect (rows.filter fun row => keep row.1) = (collect rows).restrict keep := by
  apply ext_find?
  intro key
  rw [find?_collect_filter, find?_restrict]

theorem total_restrict_collect (keep : String → Bool) (rows : List SizeRow) :
    ((collect rows).restrict keep).total =
      ((rows.filter fun row => keep row.1).map Prod.snd).sum := by
  rw [← collect_filter, total_collect]

end Restricting

end SymbolFootprint.SizeTable
