import Mathlib.Data.List.Perm.Lattice
import Mathlib.Data.String.Basic
import SymbolFootprint.SizeTable

/-!
What a table answers to a key, as far as its rows tell.

A row stands in a table exactly if the table answers its key with its size (`find?_eq_some_iff`).
So a table is determined by its answers (`ext_find?`), and what `upsert` does to the rows can be
said as what it does to the answers (`lookup_upsert`).
-/

namespace SymbolFootprint.SizeTable

theorem lookup_cons_row (key query : String) (size : Size) (rest : List SizeRow) :
    ((key, size) :: rest).lookup query =
      if query = key then some size else rest.lookup query := by
  by_cases equal : query = key
  · simp [equal]
  · have differs : (query == key) = false := beq_eq_false_iff_ne.mpr equal
    rw [List.lookup_cons, differs, if_neg equal]

theorem lookup_eq_none_iff {rows : List SizeRow} {key : String} :
    rows.lookup key = none ↔ key ∉ rows.map Prod.fst := by
  induction rows with
  | nil => simp
  | cons row rest inductionHypothesis =>
    rw [lookup_cons_row]
    by_cases equal : key = row.1
    · simp [equal]
    · rw [if_neg equal, inductionHypothesis, List.map_cons, List.mem_cons]
      simp only [equal, false_or]

theorem mem_of_lookup_eq_some {rows : List SizeRow} {key : String} {size : Size}
    (found : rows.lookup key = some size) : (key, size) ∈ rows := by
  induction rows with
  | nil => simp at found
  | cons row rest inductionHypothesis =>
    rw [lookup_cons_row] at found
    split at found
    · next equal =>
      cases found
      simp [equal]
    · exact List.mem_cons_of_mem _ (inductionHypothesis found)

theorem lookup_eq_some_of_mem {rows : List SizeRow} {key : String} {size : Size}
    (sorted : rows.Pairwise (fun a b => a.1 < b.1)) (membership : (key, size) ∈ rows) :
    rows.lookup key = some size := by
  induction rows with
  | nil => simp at membership
  | cons row rest inductionHypothesis =>
    rw [lookup_cons_row]
    rcases List.mem_cons.mp membership with equality | inside
    · simp [← equality]
    · have later : row.1 < key := List.rel_of_pairwise_cons sorted inside
      rw [if_neg later.ne']
      exact inductionHypothesis sorted.of_cons inside

theorem lookup_eq_none_of_before {rows : List SizeRow} {key : String}
    (before : ∀ row ∈ rows, key < row.1) : rows.lookup key = none := by
  rw [lookup_eq_none_iff, List.mem_map]
  rintro ⟨row, membership, rfl⟩
  exact lt_irrefl _ (before row membership)

theorem find?_eq_some_iff {table : SizeTable} {key : String} {size : Size} :
    table.find? key = some size ↔ (key, size) ∈ table.rows :=
  ⟨mem_of_lookup_eq_some, lookup_eq_some_of_mem table.sorted⟩

theorem nodup_rows (table : SizeTable) : table.rows.Nodup :=
  table.sorted.imp fun before equality => before.ne (congrArg Prod.fst equality)

/-- Two tables with the same answers are equal. -/
theorem ext_find? {a b : SizeTable} (same : ∀ key, a.find? key = b.find? key) : a = b := by
  apply SizeTable.ext
  have perm : a.rows.Perm b.rows := by
    rw [List.perm_ext_iff_of_nodup a.nodup_rows b.nodup_rows]
    rintro ⟨key, size⟩
    rw [← find?_eq_some_iff, ← find?_eq_some_iff, same key]
  exact perm.eq_of_pairwise (fun _ _ _ _ before after => absurd after before.not_gt)
    a.sorted b.sorted

/-- What `upsert` leaves under a key: the amount joins what stood there, and other keys keep their
sizes. -/
theorem lookup_upsert (combine : Size → Size → Size) (key query : String) (amount : Size)
    {rows : List SizeRow} (sorted : rows.Pairwise (fun a b => a.1 < b.1)) :
    (upsert combine key amount rows).lookup query =
      if query = key then
        some ((rows.lookup key).elim amount fun size => combine size amount)
      else rows.lookup query := by
  induction rows with
  | nil => rw [upsert, lookup_cons_row]; rfl
  | cons row rest inductionHypothesis =>
    obtain ⟨k, size⟩ := row
    have later : ∀ other ∈ rest, k < other.1 := fun _ inside =>
      List.rel_of_pairwise_cons sorted inside
    unfold upsert
    split
    · next before =>
      have absent : ((k, size) :: rest).lookup key = none := by
        apply lookup_eq_none_of_before
        intro other membership
        rcases List.mem_cons.mp membership with rfl | inside
        · exact before
        · exact before.trans (later other inside)
      rw [absent, lookup_cons_row]
      rfl
    · split
      · next equal =>
        simp only [lookup_cons_row, equal, if_true, Option.elim_some]
        split <;> rfl
      · next distinct =>
        simp only [lookup_cons_row, inductionHypothesis sorted.of_cons, if_neg distinct]
        by_cases equal : query = k
        · simp [equal, Ne.symm distinct]
        · simp only [if_neg equal]

theorem find?_add (table : SizeTable) (key query : String) (amount : Size) :
    (table.add key amount).find? query =
      if query = key then some ((table.find? key).elim amount (· + amount))
      else table.find? query :=
  lookup_upsert (· + ·) key query amount table.sorted

end SymbolFootprint.SizeTable
