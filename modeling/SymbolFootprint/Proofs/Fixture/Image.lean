import SymbolFootprint.Fixture.Image
import SymbolFootprint.Proofs.Fixture.StringTable

/-!
Where the parts of an object file stand, and how long the file is.

The places that a `Layout` computes are the places of the parts in the bytes (`runAt_symbolTable`,
`runAt_strings`, `runAt_sectionStrings`, `runAt_sectionTable`). A file is as long as its code and
variables, and its `overhead` (`length_toBytes`).
-/

namespace SymbolFootprint.Fixture

theorem le_aligned (n : Nat) : n ≤ aligned n := by
  unfold aligned
  omega

@[simp]
theorem length_padding (n : Nat) : (padding n).length = aligned n - n :=
  List.length_replicate

@[simp]
theorem length_bytes (width n : Nat) : (bytes width n).length = width :=
  ByteOrder.length_littleBytes width n

@[simp]
theorem length_header (layout : Layout) : layout.header.length = 64 := by
  simp [Layout.header]

@[simp]
theorem length_sectionEntry (entry : SectionEntry) (index : Nat) :
    (entry.toBytes index).length = 64 := by
  simp [SectionEntry.toBytes]

@[simp]
theorem length_symbolEntry (layout : Layout) (index : Nat) (symbol : Symbol) (place : Nat) :
    (layout.symbolEntry index symbol place).length = 24 := by
  simp [Layout.symbolEntry]

theorem map_placeSymbols (functions objects : Nat) (symbols : List Symbol) :
    (placeSymbols functions objects symbols).map Prod.fst = symbols := by
  induction symbols generalizing functions objects with
  | nil => rfl
  | cons symbol rest inductionHypothesis =>
    unfold placeSymbols
    split <;> rw [List.map_cons, inductionHypothesis]

theorem length_sectionStrings_le : sectionStrings.bytes.length ≤ 40 := by
  refine (StringTable.length_ofStrings_le _).trans ?_
  decide

section Tables

def symbolEntries (fixture : Fixture) : List (List UInt8) :=
  List.replicate 24 0 ::
    (placeSymbols 0 0 fixture.symbols).zipIdx.map fun ((symbol, place), index) =>
      fixture.layout.symbolEntry index symbol place

theorem symbolTable_eq_flatten (fixture : Fixture) :
    fixture.symbolTable fixture.layout = fixture.symbolEntries.flatten := by
  rw [symbolTable, symbolEntries, List.flatten_cons, List.flatMap_def]

theorem length_of_mem_symbolEntries {fixture : Fixture} {entry : List UInt8}
    (membership : entry ∈ fixture.symbolEntries) : entry.length = 24 := by
  rcases List.mem_cons.mp membership with rfl | inside
  · rfl
  · rcases List.mem_map.mp inside with ⟨⟨⟨symbol, place⟩, index⟩, _, rfl⟩
    exact length_symbolEntry ..

theorem length_symbolEntries (fixture : Fixture) :
    fixture.symbolEntries.length = fixture.symbolCount + 1 := by
  have count := congrArg List.length (map_placeSymbols 0 0 fixture.symbols)
  rw [List.length_map] at count
  rw [symbolEntries, List.length_cons, List.length_map, List.length_zipIdx, count, symbolCount]

theorem length_symbolTable (fixture : Fixture) :
    (fixture.symbolTable fixture.layout).length = fixture.layout.symbolTableSize := by
  rw [symbolTable_eq_flatten, length_flatten_of_widths fun _ => length_of_mem_symbolEntries,
    length_symbolEntries, Nat.mul_comm]
  rfl

def Layout.sectionRuns (layout : Layout) : List (List UInt8) :=
  List.replicate 64 0 ::
    layout.sectionEntries.zipIdx.map fun entry => entry.1.toBytes entry.2

theorem sectionTable_eq_flatten (layout : Layout) :
    layout.sectionTable = layout.sectionRuns.flatten := by
  rw [Layout.sectionTable, Layout.sectionRuns, List.flatten_cons, List.flatMap_def]

theorem length_of_mem_sectionRuns {layout : Layout} {entry : List UInt8}
    (membership : entry ∈ layout.sectionRuns) : entry.length = 64 := by
  rcases List.mem_cons.mp membership with rfl | inside
  · rfl
  · rcases List.mem_map.mp inside with ⟨⟨entry, index⟩, _, rfl⟩
    exact length_sectionEntry ..

theorem length_sectionRuns (layout : Layout) : layout.sectionRuns.length = 6 := rfl

theorem length_sectionTable (layout : Layout) : layout.sectionTable.length = 6 * 64 := by
  rw [sectionTable_eq_flatten, length_flatten_of_widths fun _ => length_of_mem_sectionRuns,
    length_sectionRuns]

end Tables

section Places

variable (fixture : Fixture)

def front : List UInt8 :=
  fixture.layout.header ++ List.replicate fixture.layout.codeSize 0xC3 ++
    List.replicate fixture.layout.dataSize 0 ++ padding fixture.layout.dataStop

theorem toBytes_eq :
    fixture.toBytes =
      fixture.front ++ fixture.symbolTable fixture.layout ++ fixture.layout.strings.bytes ++
        sectionStrings.bytes ++ padding fixture.layout.sectionStringStop ++
        fixture.layout.sectionTable := by
  unfold toBytes front
  rfl

theorem length_front : fixture.front.length = fixture.layout.symbolStart := by
  have space := le_aligned fixture.layout.dataStop
  have stop : fixture.layout.dataStop =
      64 + fixture.layout.codeSize + fixture.layout.dataSize := rfl
  rw [front, List.length_append, List.length_append, List.length_append, length_header,
    List.length_replicate, List.length_replicate, length_padding, Layout.symbolStart]
  omega

theorem runAt_header : RunAt fixture.toBytes 0 fixture.layout.header := by
  have first : RunAt fixture.front 0 fixture.layout.header :=
    (((RunAt.refl _).append_right _).append_right _).append_right _
  rw [toBytes_eq]
  exact ((((first.append_right _).append_right _).append_right _).append_right _).append_right _

theorem runAt_symbolTable :
    RunAt fixture.toBytes fixture.layout.symbolStart (fixture.symbolTable fixture.layout) := by
  rw [toBytes_eq, ← length_front]
  exact ((((RunAt.append_left _ _).append_right _).append_right _).append_right _).append_right _

theorem runAt_strings :
    RunAt fixture.toBytes fixture.layout.stringStart fixture.layout.strings.bytes := by
  have place : (fixture.front ++ fixture.symbolTable fixture.layout).length =
      fixture.layout.stringStart := by
    rw [List.length_append, length_front, length_symbolTable, Layout.stringStart]
  rw [toBytes_eq, ← place]
  exact (((RunAt.append_left _ _).append_right _).append_right _).append_right _

theorem runAt_sectionStrings :
    RunAt fixture.toBytes fixture.layout.sectionStringStart sectionStrings.bytes := by
  have place : (fixture.front ++ fixture.symbolTable fixture.layout ++
      fixture.layout.strings.bytes).length = fixture.layout.sectionStringStart := by
    rw [List.length_append, List.length_append, length_front, length_symbolTable,
      Layout.sectionStringStart, Layout.stringStart]
  rw [toBytes_eq, ← place]
  exact ((RunAt.append_left _ _).append_right _).append_right _

theorem length_before_sectionTable :
    (fixture.front ++ fixture.symbolTable fixture.layout ++ fixture.layout.strings.bytes ++
      sectionStrings.bytes ++ padding fixture.layout.sectionStringStop).length =
        fixture.layout.sectionTableStart := by
  have space := le_aligned fixture.layout.sectionStringStop
  have stop : fixture.layout.sectionStringStop =
      fixture.layout.symbolStart + fixture.layout.symbolTableSize +
        fixture.layout.strings.bytes.length + sectionStrings.bytes.length := rfl
  rw [List.length_append, List.length_append, List.length_append, List.length_append,
    length_front, length_symbolTable, length_padding, Layout.sectionTableStart]
  omega

theorem runAt_sectionTable :
    RunAt fixture.toBytes fixture.layout.sectionTableStart fixture.layout.sectionTable := by
  rw [toBytes_eq, ← length_before_sectionTable]
  exact RunAt.append_left _ _

theorem length_toBytes_eq_add :
    fixture.toBytes.length = fixture.layout.sectionTableStart + 384 := by
  rw [toBytes_eq, List.length_append, length_before_sectionTable, length_sectionTable]

/-- The bytes of a file besides its code and variables: the header, the tables, and the zeros
between the parts. -/
def overhead : Nat :=
  64 + (padding fixture.layout.dataStop).length + fixture.layout.symbolTableSize +
    fixture.layout.strings.bytes.length + sectionStrings.bytes.length +
    (padding fixture.layout.sectionStringStop).length + 384

/-- Besides code and variables a file takes a fixed number of bytes, and a few for each symbol. -/
theorem overhead_le :
    fixture.overhead ≤ 24 * fixture.symbolCount +
      (fixture.symbols.map fun symbol => (nameBytes symbol.name).length + 1).sum + 527 := by
  have names := StringTable.length_ofStrings_le
    (fixture.symbols.map fun symbol => nameBytes symbol.name)
  have strings : fixture.layout.strings.bytes.length ≤
      (fixture.symbols.map fun symbol => (nameBytes symbol.name).length + 1).sum + 1 := by
    rwa [List.map_map] at names
  have sections := length_sectionStrings_le
  have size : fixture.layout.symbolTableSize = 24 * (fixture.symbolCount + 1) := rfl
  simp only [overhead, length_padding, aligned, size]
  omega

theorem totalSize_eq_sum : fixture.totalSize = (fixture.symbols.map Symbol.size).sum := rfl

theorem sizeOf_eq_sum (kind : Kind) :
    fixture.sizeOf kind = ((fixture.symbols.filter (·.kind = kind)).map Symbol.size).sum := rfl

theorem totalSize_eq : fixture.totalSize = fixture.sizeOf .function + fixture.sizeOf .object := by
  rw [totalSize_eq_sum, sizeOf_eq_sum, sizeOf_eq_sum]
  induction fixture.symbols with
  | nil => rfl
  | cons symbol rest inductionHypothesis =>
    rw [List.map_cons, List.sum_cons, inductionHypothesis, List.filter_cons, List.filter_cons]
    cases kind : symbol.kind with
    | function =>
      simp only [decide_true, if_true, reduceCtorEq, decide_false, Bool.false_eq_true, if_false,
        List.map_cons, List.sum_cons]
      omega
    | object =>
      simp only [decide_true, if_true, reduceCtorEq, decide_false, Bool.false_eq_true, if_false,
        List.map_cons, List.sum_cons]
      omega

theorem length_toBytes : fixture.toBytes.length = fixture.totalSize + fixture.overhead := by
  have sizes : fixture.totalSize = fixture.layout.codeSize + fixture.layout.dataSize :=
    fixture.totalSize_eq
  rw [toBytes_eq, front]
  simp only [List.length_append, length_header, List.length_replicate, length_symbolTable,
    length_sectionTable, overhead]
  omega

theorem length_toBytes_le :
    fixture.toBytes.length ≤ fixture.totalSize + 24 * fixture.symbolCount +
      (fixture.symbols.map fun symbol => (nameBytes symbol.name).length + 1).sum + 527 := by
  have overhead := fixture.overhead_le
  rw [length_toBytes]
  omega

end Places

end SymbolFootprint.Fixture
