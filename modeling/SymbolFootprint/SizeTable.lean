import SymbolFootprint.Size

/-!
Tables from names to sizes, kept in the order of their keys.

Two tables with the same answers are equal (`SizeTable.ext_find?`), so a table does not remember how
it was built. `SizeTable.ranked` lists the rows from the largest to the smallest.
-/

namespace SymbolFootprint

abbrev SizeRow := String × Size

structure SizeTable where
  rows : List SizeRow
  sorted : rows.Pairwise (fun a b => a.1 < b.1)
deriving DecidableEq

namespace SizeTable

@[ext]
theorem ext {a b : SizeTable} (equal : a.rows = b.rows) : a = b := by
  cases a
  cases b
  simp_all

/-- Puts an amount under a key, combined with the amount that stands there already. -/
def upsert (combine : Size → Size → Size) (key : String) (amount : Size) :
    List SizeRow → List SizeRow
  | [] => [(key, amount)]
  | (k, size) :: rest =>
    if key < k then (key, amount) :: (k, size) :: rest
    else if key = k then (k, combine size amount) :: rest
    else (k, size) :: upsert combine key amount rest

theorem key_of_mem_upsert {combine : Size → Size → Size} {key : String} {amount : Size}
    {rows : List SizeRow} {row : SizeRow} (membership : row ∈ upsert combine key amount rows) :
    row.1 = key ∨ ∃ other ∈ rows, other.1 = row.1 := by
  induction rows with
  | nil =>
    simp only [upsert, List.mem_singleton] at membership
    simp [membership]
  | cons head rest ih =>
    obtain ⟨k, size⟩ := head
    unfold upsert at membership
    split at membership
    · rcases List.mem_cons.1 membership with rfl | inside
      · exact .inl rfl
      · exact .inr ⟨row, inside, rfl⟩
    · split at membership
      · rcases List.mem_cons.1 membership with rfl | inside
        · exact .inr ⟨(k, size), List.mem_cons_self .., rfl⟩
        · exact .inr ⟨row, List.mem_cons_of_mem _ inside, rfl⟩
      · rcases List.mem_cons.1 membership with rfl | inside
        · exact .inr ⟨(k, size), List.mem_cons_self .., rfl⟩
        · rcases ih inside with equal | ⟨other, found, equal⟩
          · exact .inl equal
          · exact .inr ⟨other, List.mem_cons_of_mem _ found, equal⟩

theorem sorted_upsert (combine : Size → Size → Size) (key : String) (amount : Size)
    {rows : List SizeRow} (sorted : rows.Pairwise (fun a b => a.1 < b.1)) :
    (upsert combine key amount rows).Pairwise (fun a b => a.1 < b.1) := by
  induction rows with
  | nil => simp [upsert]
  | cons head rest ih =>
    obtain ⟨k, size⟩ := head
    have later : ∀ row ∈ rest, k < row.1 := fun _ inside => List.rel_of_pairwise_cons sorted inside
    unfold upsert
    split
    · next before =>
      refine List.Pairwise.cons (fun row membership => ?_) sorted
      rcases List.mem_cons.1 membership with rfl | inside
      · exact before
      · exact String.lt_trans before (later row inside)
    · next notBefore =>
      split
      · exact List.Pairwise.cons (later) sorted.of_cons
      · next distinct =>
        refine List.Pairwise.cons (fun row membership => ?_) (ih sorted.of_cons)
        rcases key_of_mem_upsert membership with equal | ⟨other, inside, equal⟩
        · show k < row.1
          rw [equal]
          exact Decidable.byContradiction fun notAfter =>
            distinct (String.le_antisymm (String.not_lt.1 notAfter) (String.not_lt.1 notBefore))
        · show k < row.1
          rw [← equal]
          exact later other inside

instance : Inhabited SizeTable := ⟨⟨[], .nil⟩⟩

def empty : SizeTable :=
  ⟨[], .nil⟩

def find? (table : SizeTable) (key : String) : Option Size :=
  table.rows.lookup key

def add (table : SizeTable) (key : String) (amount : Size) : SizeTable :=
  ⟨upsert (· + ·) key amount table.rows, sorted_upsert _ _ _ table.sorted⟩

/-- The table with the amount under a key, in place of what stood there. -/
def insert (table : SizeTable) (key : String) (amount : Size) : SizeTable :=
  ⟨upsert (fun _ new => new) key amount table.rows, sorted_upsert _ _ _ table.sorted⟩

/-- The table of the rows, of which the last one counts if a key is repeated. -/
def ofList (rows : List SizeRow) : SizeTable :=
  rows.foldl (fun table row => table.insert row.1 row.2) empty

/-- The table of the rows, in which sizes under a common key are added. -/
def collect (rows : List SizeRow) : SizeTable :=
  rows.foldl (fun table row => table.add row.1 row.2) empty

/-- The table with an amount added under a key, modulo `2 ^ 64`. -/
def addWrapping (table : SizeTable) (key : String) (amount : Size) : SizeTable :=
  ⟨upsert Size.wrappingAdd key amount table.rows, sorted_upsert _ _ _ table.sorted⟩

/-- The table of the rows, in which sizes under a common key are added modulo `2 ^ 64`. -/
def collectWrapping (rows : List SizeRow) : SizeTable :=
  rows.foldl (fun table row => table.addWrapping row.1 row.2) empty

/-- Is a sum too large for a count as the rows are added to a table one after the other? -/
def overflows (table : SizeTable) : List SizeRow → Bool
  | [] => false
  | (key, amount) :: rest =>
    (table.find? key).any (fun size => 0x10000000000000000 ≤ size.bytes + amount.bytes) ||
      (table.addWrapping key amount).overflows rest

/-- Both tables in one; sizes under a common key are added. -/
def merge (table other : SizeTable) : SizeTable :=
  other.rows.foldl (fun table row => table.add row.1 row.2) table

def total (table : SizeTable) : Size :=
  (table.rows.map Prod.snd).sum

/-- The order of a ranking: larger sizes first, and equal sizes by key. -/
def ranksBefore (a b : SizeRow) : Bool :=
  b.2 < a.2 || (a.2 = b.2 && a.1 ≤ b.1)

def ranked (table : SizeTable) : List SizeRow :=
  table.rows.mergeSort ranksBefore

@[simp]
theorem rows_empty : empty.rows = [] := rfl

@[simp]
theorem find?_empty (key : String) : empty.find? key = none := rfl

end SizeTable

end SymbolFootprint
