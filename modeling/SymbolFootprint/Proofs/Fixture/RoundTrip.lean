import SymbolFootprint.Proofs.Analysis.Overflow
import SymbolFootprint.Proofs.Fixture.Reading
import SymbolFootprint.Proofs.Text.Utf8
import SymbolFootprint.Report.FileReport

/-!
Writing an object file and reading it back.

The names of symbols and sections are found at their offsets (`nameAt?_of_runAt`), so the records of
a file are the symbols that have a name (`records_read`), and its rows give the sizes of code and
variables (`sections_read`). `build_extract` puts this together for every list of symbols whose
numbers fit the file format.
-/

namespace SymbolFootprint.Fixture

open Elf

def Kind.symbolKind : Kind → SymbolKind
  | .function => .function
  | .object => .object

/-- The record that a symbol is read as. A symbol without a name is not shown. -/
def Symbol.record? (symbol : Symbol) : Option SymbolRecord :=
  if symbol.name = "" then none
  else some ⟨symbol.name, .clamp symbol.size, symbol.kind.symbolKind⟩

theorem nameBytes_eq_encode (name : String) : nameBytes name = Utf8.encode name.toList :=
  Utf8.toUTF8_eq_encode name

theorem shownName?_nameBytes (name : String) :
    shownName? (nameBytes name) = if name = "" then none else some name := by
  rw [nameBytes_eq_encode, shownName?, Utf8.decode?_encode]
  by_cases empty : name = ""
  · rw [if_pos empty, empty]
    rfl
  · rw [if_neg empty]
    cases characters : name.toList with
    | nil => exact absurd (String.toList_eq_nil_iff.mp characters) empty
    | cons c rest =>
      change some (String.ofList (c :: rest)) = some name
      rw [← characters, String.ofList_toList]

section Names

variable {file : ByteArray}

theorem getElem?_names {fixture : Fixture} {index : Nat} {symbol : Symbol}
    (present : fixture.symbols[index]? = some symbol) :
    (fixture.symbols.map fun symbol => nameBytes symbol.name)[index]? =
      some (nameBytes symbol.name) := by
  rw [List.getElem?_map, present, Option.map_some]

/-- A name that stands in a string table is shown, unless it is empty. -/
theorem nameAt?_of_runAt {place offset : Nat} {table : List UInt8} {name : String}
    (noZero : '\x00' ∉ name.toList) (stands : RunAt file.data.toList place table)
    (within : RunAt table offset (nameBytes name ++ [0])) :
    nameAt? file (some ⟨place, place + table.length⟩) offset =
      if name = "" then none else some name := by
  have bytes : 0 ∉ nameBytes name := by
    rw [nameBytes_eq_encode]
    exact Utf8.zero_not_mem_encode noZero
  have found := string?_of_runAt bytes stands within
  rw [← shownName?_nameBytes]
  simp only [nameAt?, bind, Option.bind, found]

variable {fixture : Fixture} (content : file.data.toList = fixture.toBytes)

include content

theorem nameAt?_sectionStrings (index : Nat) {name : String}
    (isName : sectionNames[index]? = some name) :
    nameAt? file (some fixture.layout.sectionStringArea) (sectionStrings.offset index) =
      some name := by
  have membership := List.mem_of_getElem? isName
  have noZero : ∀ name ∈ sectionNames, '\x00' ∉ name.toList := by decide
  have nonempty : ∀ name ∈ sectionNames, name ≠ "" := by decide
  have stands := fixture.runAt_sectionStrings
  rw [← content] at stands
  have present : (sectionNames.map nameBytes)[index]? = some (nameBytes name) := by
    rw [List.getElem?_map, isName, Option.map_some]
  have within := StringTable.ofStrings_runAt present
  exact (nameAt?_of_runAt (noZero name membership) stands within).trans
    (if_neg (nonempty name membership))

theorem nameAt?_strings {index : Nat} {symbol : Symbol}
    (present : fixture.symbols[index]? = some symbol) (noZero : '\x00' ∉ symbol.name.toList) :
    nameAt? file (some fixture.layout.stringArea) (fixture.layout.strings.offset index) =
      if symbol.name = "" then none else some symbol.name := by
  have stands := fixture.runAt_strings
  rw [← content] at stands
  exact nameAt?_of_runAt noZero stands (StringTable.ofStrings_runAt (getElem?_names present))

theorem sections_read :
    (fixture.read.contents file).sections =
      [(".text", .clamp fixture.layout.codeSize), (".data", .clamp fixture.layout.dataSize),
        (".symtab", .clamp fixture.layout.symbolTableSize),
        (".strtab", .clamp fixture.layout.strings.bytes.length),
        (".shstrtab", .clamp sectionStrings.bytes.length)] := by
  have text := nameAt?_sectionStrings content 0 rfl
  have data := nameAt?_sectionStrings content 1 rfl
  have symbols := nameAt?_sectionStrings content 2 rfl
  have strings := nameAt?_sectionStrings content 3 rfl
  have names := nameAt?_sectionStrings content 4 rfl
  simp only [File.contents, read, Layout.sections, List.drop_succ_cons, List.drop_zero,
    List.filterMap_cons, List.filterMap_nil, Section.row?, Layout.symbolSection,
    Layout.stringSection, Layout.sectionStringSection, text, data, symbols, strings, names,
    Option.map_some]

end Names

section Records

variable {fixture : Fixture} {file : ByteArray}

theorem ofBytes_symbolEntry {layout : Layout} {index : Nat} {symbol : Symbol} (place : Nat)
    (name : layout.strings.offset index < 2 ^ 32) (size : symbol.size < 2 ^ 64) :
    Elf.Symbol.ofBytes encoding (layout.symbolEntry index symbol place) =
      match symbol.kind with
      | .function => ⟨layout.strings.offset index, 0x12, 1, symbol.size⟩
      | .object => ⟨layout.strings.offset index, 0x11, 2, symbol.size⟩ := by
  have fields : Elf.Symbol.ofBytes encoding (layout.symbolEntry index symbol place) =
      match symbol.kind with
      | .function =>
        { name := ByteOrder.little.number (bytes 4 (layout.strings.offset index))
          info := ByteOrder.little.number (bytes 1 0x12)
          sectionIndex := ByteOrder.little.number (bytes 2 1)
          size := ByteOrder.little.number (bytes 8 symbol.size) }
      | .object =>
        { name := ByteOrder.little.number (bytes 4 (layout.strings.offset index))
          info := ByteOrder.little.number (bytes 1 0x11)
          sectionIndex := ByteOrder.little.number (bytes 2 2)
          size := ByteOrder.little.number (bytes 8 symbol.size) } := by
    unfold Layout.symbolEntry
    cases symbol.kind <;>
      simp only [Elf.Symbol.ofBytes, Encoding.read, List.append_assoc] <;>
      rfl
  rw [fields, number_bytes 4 name, number_bytes 8 size, number_bytes 1 (by decide),
    number_bytes 1 (by decide), number_bytes 2 (by decide), number_bytes 2 (by decide)]

theorem size_le_length (fixture : Fixture) {symbol : Symbol}
    (membership : symbol ∈ fixture.symbols) : symbol.size ≤ fixture.toBytes.length := by
  have part : symbol.size ≤ fixture.totalSize :=
    List.single_le_sum (fun _ _ => Nat.zero_le _) _ (List.mem_map_of_mem membership)
  have total := fixture.length_toBytes
  omega

theorem record?_symbolEntry (addressable : fixture.Addressable)
    (content : file.data.toList = fixture.toBytes) {index : Nat} {symbol : Symbol}
    (present : fixture.symbols[index]? = some symbol) (noZero : '\x00' ∉ symbol.name.toList)
    (place : Nat) :
    Elf.Symbol.record? file (some fixture.layout.stringArea)
      (Elf.Symbol.ofBytes encoding (fixture.layout.symbolEntry index symbol place)) =
        symbol.record? := by
  have size : symbol.size < 2 ^ 64 :=
    (fixture.size_le_length (List.mem_of_getElem? present)).trans_lt addressable.fileFits
  have name : fixture.layout.strings.offset index < 2 ^ 32 :=
    (StringTable.offset_lt_length (getElem?_names present)).trans_le addressable.namesFit
  have shown := nameAt?_strings content present noZero
  rw [ofBytes_symbolEntry place name size, Symbol.record?]
  cases kind : symbol.kind <;>
    by_cases empty : symbol.name = "" <;>
      simp [Elf.Symbol.record?, shown, empty, Kind.symbolKind, SymbolKind.ofElfType]

/-- The records of a file are the symbols that have a name, in their order. -/
theorem records_read (addressable : fixture.Addressable)
    (content : file.data.toList = fixture.toBytes)
    (noZero : ∀ symbol ∈ fixture.symbols, '\x00' ∉ symbol.name.toList) :
    (fixture.read.contents file).records = fixture.symbols.filterMap Symbol.record? := by
  have placed : (placeSymbols 0 0 fixture.symbols).zipIdx.filterMap
      (fun entry => Elf.Symbol.record? file (some fixture.layout.stringArea)
        (Elf.Symbol.ofBytes encoding
          (fixture.layout.symbolEntry entry.2 entry.1.1 entry.1.2))) =
      (placeSymbols 0 0 fixture.symbols).zipIdx.filterMap fun entry => entry.1.1.record? := by
    apply List.filterMap_congr
    rintro ⟨⟨symbol, place⟩, index⟩ membership
    have position := List.mk_mem_zipIdx_iff_getElem?.mp membership
    have present : fixture.symbols[index]? = some symbol := by
      rw [← map_placeSymbols 0 0 fixture.symbols, List.getElem?_map, position, Option.map_some]
    exact record?_symbolEntry addressable content present
      (noZero symbol (List.mem_of_getElem? present)) place
  have symbols : (fixture.read.contents file).symbols =
      fixture.symbols.filterMap Symbol.record? := by
    simp only [File.contents, read, SymbolTable.records, symbolEntries, List.map_cons,
      List.drop_succ_cons, List.drop_zero, List.filterMap_map]
    refine placed.trans ?_
    conv => rhs; rw [← map_placeSymbols 0 0 fixture.symbols, ← List.zipIdx_map_fst 0
      (placeSymbols 0 0 fixture.symbols), List.filterMap_map, List.filterMap_map]
    rfl
  have dynamic : (fixture.read.contents file).dynamicSymbols = [] := rfl
  rw [Contents.records, dynamic, symbols]
  cases fixture.symbols.filterMap Symbol.record? <;> rfl

end Records

section Building

theorem addressable_of_fits {fixture : Fixture}
    (fileFits : fixture.totalSize + fixture.overhead < 2 ^ 64)
    (namesFit : (fixture.symbols.map fun symbol => (nameBytes symbol.name).length + 1).sum <
      2 ^ 32) : fixture.Addressable where
  fileFits := by
    rwa [length_toBytes]
  namesFit := by
    have length := StringTable.length_ofStrings_le
      (fixture.symbols.map fun symbol => nameBytes symbol.name)
    rw [List.map_map] at length
    exact length.trans namesFit

theorem build_eq_ok {fixture : Fixture}
    (noZero : ∀ symbol ∈ fixture.symbols, '\x00' ∉ symbol.name.toList) :
    fixture.build = .ok ⟨fixture.toBytes.toArray⟩ := by
  rw [build, if_neg]
  simpa using noZero

theorem size_of_build {fixture : Fixture} {file : ByteArray}
    (noZero : ∀ symbol ∈ fixture.symbols, '\x00' ∉ symbol.name.toList)
    (built : fixture.build = .ok file) : file.size = fixture.toBytes.length := by
  rw [build_eq_ok noZero] at built
  cases built
  exact size_eq_length _

/-- The first bytes of a file announce the wide class of ELF. -/
theorem ofFile_of_start {layout : Layout} {file : ByteArray}
    (stands : RunAt file.data.toList 0 (layout.header.take 16)) (reader : Foreign.Reader) :
    Contents.ofFile reader file = ((Elf.parse file true).map (·.contents file)).mapError .elf := by
  have start : window? file 0 16 = some (layout.header.take 16) := window?_of_runAt stands
  have format : Format.ofStart (layout.header.take 16) = .ok (.elf true) := rfl
  rw [Contents.ofFile, start]
  simp only [format, bind, Except.bind]

theorem ofFile_of_fileFits {fixture : Fixture} {file : ByteArray}
    (fileFits : fixture.toBytes.length < 2 ^ 64) (content : file.data.toList = fixture.toBytes)
    (reader : Foreign.Reader) : Contents.ofFile reader file = .ok (fixture.read.contents file) := by
  have stands := fixture.runAt_header
  rw [← content, ← List.take_append_drop 16 fixture.layout.header] at stands
  rw [ofFile_of_start stands.start, parse_toBytes fileFits content]
  rfl

theorem ofFile_toBytes {fixture : Fixture} {file : ByteArray} (addressable : fixture.Addressable)
    (content : file.data.toList = fixture.toBytes) (reader : Foreign.Reader) :
    Contents.ofFile reader file = .ok (fixture.read.contents file) :=
  ofFile_of_fileFits addressable.fileFits content reader

/-- All sections have names of their own, so their sizes are not added up. -/
theorem overflows_read {fixture : Fixture} {file : ByteArray}
    (content : file.data.toList = fixture.toBytes) :
    (fixture.read.contents file).overflows = false := by
  apply SizeTable.overflows_empty_of_nodup
  have distinct : [".text", ".data", ".symtab", ".strtab", ".shstrtab"].Nodup := by decide
  rw [sections_read content]
  exact distinct

theorem sectionsOverflow_of_fileFits {fixture : Fixture} {file : ByteArray}
    (fileFits : fixture.toBytes.length < 2 ^ 64) (content : file.data.toList = fixture.toBytes)
    (reader : Foreign.Reader) : FileReport.sectionsOverflow reader file = false := by
  rw [FileReport.sectionsOverflow, ofFile_of_fileFits fileFits content]
  exact overflows_read content

theorem not_isOversized {fixture : Fixture} {target : Backend.Target}
    (fileFits : fixture.toBytes.length < 2 ^ 64)
    (content : target.content.data.toList = fixture.toBytes) : ¬target.IsOversized := by
  rw [Backend.Target.isOversized_iff, sectionsOverflow_of_fileFits fileFits content]
  exact Bool.false_ne_true

theorem bytes_clamp_of_lt {n : Nat} (fits : n < 2 ^ 64) : (Size.clamp n).bytes = n := by
  rw [Size.bytes_clamp]
  omega

/-- The file that calls of the builder describe, from an empty one. -/
def ofCalls (calls : List Symbol) : Fixture :=
  calls.foldl (fun fixture call => fixture.add call.kind call.name call.size) empty

theorem ofCalls_eq (calls : List Symbol) : ofCalls calls = ⟨calls⟩ := by
  have more : ∀ fixture : Fixture,
      calls.foldl (fun fixture call => fixture.add call.kind call.name call.size) fixture =
        ⟨fixture.symbols ++ calls⟩ := by
    induction calls with
    | nil => simp
    | cons call rest inductionHypothesis =>
      intro fixture
      rw [List.foldl_cons, inductionHypothesis, add, List.append_assoc, List.singleton_append]
  exact more empty

/-- Calls with a name that is the end of another one, an empty name and a repeated name. -/
def sharedNames : List Symbol :=
  [⟨.function, "System_Object_ToString", 100⟩, ⟨.object, "ToString", 8⟩, ⟨.function, "", 3⟩,
    ⟨.object, "ToString", 0⟩]

end Building

end SymbolFootprint.Fixture
