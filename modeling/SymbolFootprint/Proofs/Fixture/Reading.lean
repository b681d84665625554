import SymbolFootprint.Object.Elf
import SymbolFootprint.Proofs.Fixture.Image

/-!
Reading an object file that a fixture writes.

As long as its places fit their fields, a file reads as the sections, the string tables and the
symbol entries that were written (`parse_toBytes`). The entries are read back with their names if
the offsets of names fit their fields too (`Addressable`).
-/

namespace SymbolFootprint.Fixture

open Elf

def encoding : Encoding := ⟨true, .little⟩

/-- All places of the file and all offsets of names fit their fields. -/
structure Addressable (fixture : Fixture) : Prop where
  fileFits : fixture.toBytes.length < 2 ^ 64
  namesFit : fixture.layout.strings.bytes.length ≤ 2 ^ 32

theorem number_bytes (width : Nat) {n : Nat} (fits : n < 256 ^ width) :
    ByteOrder.little.number (bytes width n) = n :=
  (ByteOrder.littleNumber_littleBytes width n).trans (Nat.mod_eq_of_lt fits)

def SectionEntry.read (entry : SectionEntry) (index : Nat) : Elf.Section where
  name := sectionStrings.offset index
  type := entry.type
  offset := entry.offset
  size := entry.size
  link := entry.link
  info := entry.info

theorem ofBytes_sectionEntry {entry : SectionEntry} {index : Nat}
    (name : sectionStrings.offset index < 2 ^ 32) (type : entry.type < 2 ^ 32)
    (offset : entry.offset < 2 ^ 64) (size : entry.size < 2 ^ 64) (link : entry.link < 2 ^ 32)
    (info : entry.info < 2 ^ 32) :
    Elf.Section.ofBytes encoding (entry.toBytes index) = entry.read index := by
  have fields : Elf.Section.ofBytes encoding (entry.toBytes index) =
      { name := ByteOrder.little.number (bytes 4 (sectionStrings.offset index))
        type := ByteOrder.little.number (bytes 4 entry.type)
        offset := ByteOrder.little.number (bytes 8 entry.offset)
        size := ByteOrder.little.number (bytes 8 entry.size)
        link := ByteOrder.little.number (bytes 4 entry.link)
        info := ByteOrder.little.number (bytes 4 entry.info) } := by
    simp only [Elf.Section.ofBytes, Encoding.read, SectionEntry.toBytes, List.append_assoc]
    rfl
  rw [fields, number_bytes 4 name, number_bytes 4 type, number_bytes 8 offset,
    number_bytes 8 size, number_bytes 4 link, number_bytes 4 info]
  rfl

section Sections

/-- The header of the string table for the names of sections, as it is read back. -/
def Layout.sectionStringSection (layout : Layout) : Elf.Section :=
  ⟨sectionStrings.offset 4, 3, layout.sectionStringStart, sectionStrings.bytes.length, 0, 0⟩

def Layout.stringSection (layout : Layout) : Elf.Section :=
  ⟨sectionStrings.offset 3, 3, layout.stringStart, layout.strings.bytes.length, 0, 0⟩

def Layout.symbolSection (layout : Layout) : Elf.Section :=
  ⟨sectionStrings.offset 2, 2, layout.symbolStart, layout.symbolTableSize, 4, 1⟩

/-- The section headers of a file, as they are read back. -/
def Layout.sections (layout : Layout) : List Elf.Section :=
  [⟨0, 0, 0, 0, 0, 0⟩,
    ⟨sectionStrings.offset 0, 1, Layout.codeStart, layout.codeSize, 0, 0⟩,
    ⟨sectionStrings.offset 1, 1, layout.dataStart, layout.dataSize, 0, 0⟩,
    layout.symbolSection, layout.stringSection, layout.sectionStringSection]

theorem sections_eq_read (layout : Layout) :
    layout.sections =
      ⟨0, 0, 0, 0, 0, 0⟩ :: layout.sectionEntries.zipIdx.map fun entry => entry.1.read entry.2 :=
  rfl

theorem sectionStrings_offset_lt {index : Nat} (isName : index < 5) :
    sectionStrings.offset index < 2 ^ 32 := by
  have present : (sectionNames.map nameBytes)[index]? =
      some (sectionNames.map nameBytes)[index] := List.getElem?_eq_getElem isName
  have inTable := StringTable.offset_lt_length present
  have short := length_sectionStrings_le
  rw [sectionStrings] at short ⊢
  omega

variable {fixture : Fixture} (fileFits : fixture.toBytes.length < 2 ^ 64)

include fileFits

/-- The sections lie within the file. -/
theorem sectionEntry_fits {entry : SectionEntry}
    (membership : entry ∈ fixture.layout.sectionEntries) :
    entry.offset + entry.size < 2 ^ 64 ∧ entry.type < 2 ^ 32 ∧ entry.link < 2 ^ 32 ∧
      entry.info < 2 ^ 32 := by
  have inFile := fixture.runAt_sectionStrings.stop_le
  have space := le_aligned fixture.layout.dataStop
  simp only [Layout.sectionStringStart, Layout.stringStart, Layout.symbolStart] at inFile
  simp only [Layout.dataStop, Layout.dataStart, Layout.codeStart] at space inFile
  simp only [Layout.sectionEntries, List.mem_cons, List.not_mem_nil, or_false] at membership
  rcases membership with rfl | rfl | rfl | rfl | rfl <;>
    simp only [Layout.sectionStringStart, Layout.stringStart, Layout.symbolStart, Layout.dataStop,
      Layout.dataStart, Layout.codeStart] <;>
    omega

theorem map_ofBytes_sectionRuns :
    fixture.layout.sectionRuns.map (Elf.Section.ofBytes encoding) = fixture.layout.sections := by
  rw [Layout.sectionRuns, List.map_cons, List.map_map, sections_eq_read]
  refine congrArg₂ List.cons rfl (List.map_congr_left ?_)
  rintro ⟨entry, index⟩ membership
  obtain ⟨place, type, link, info⟩ :=
    sectionEntry_fits fileFits (List.fst_mem_of_mem_zipIdx membership)
  have isName : index < 5 := List.snd_lt_of_mem_zipIdx membership
  exact ofBytes_sectionEntry (sectionStrings_offset_lt isName) type (by omega) (by omega) link info

end Sections

section Tables

variable {fixture : Fixture} {file : ByteArray}

def Layout.readHeader (layout : Layout) : Header where
  programOffset := 0
  sectionOffset := layout.sectionTableStart
  programEntrySize := 0
  programCount := 0
  sectionEntrySize := 64
  sectionCount := 6
  nameTable := 5

theorem ofBytes_header {layout : Layout} (fits : layout.sectionTableStart < 2 ^ 64) :
    Header.ofBytes encoding layout.header = layout.readHeader := by
  have fields : Header.ofBytes encoding layout.header =
      { programOffset := ByteOrder.little.number (bytes 8 0)
        sectionOffset := ByteOrder.little.number (bytes 8 layout.sectionTableStart)
        programEntrySize := ByteOrder.little.number (bytes 2 0)
        programCount := ByteOrder.little.number (bytes 2 0)
        sectionEntrySize := ByteOrder.little.number (bytes 2 64)
        sectionCount := ByteOrder.little.number (bytes 2 6)
        nameTable := ByteOrder.little.number (bytes 2 5) } := by
    simp only [Header.ofBytes, Encoding.read, Layout.header, List.append_assoc]
    rfl
  rw [fields, number_bytes 8 (by decide), number_bytes 8 fits, number_bytes 2 (by decide),
    number_bytes 2 (by decide), number_bytes 2 (by decide), number_bytes 2 (by decide)]
  rfl

theorem checkPrograms_readHeader (layout : Layout) :
    checkPrograms file encoding layout.readHeader = .ok () := rfl

theorem sectionTableStart_pos (layout : Layout) : 0 < layout.sectionTableStart := by
  have symbols := le_aligned layout.dataStop
  have space := le_aligned layout.sectionStringStop
  simp only [Layout.sectionTableStart, Layout.sectionStringStop, Layout.sectionStringStart,
    Layout.stringStart, Layout.symbolStart, Layout.dataStop, Layout.dataStart,
    Layout.codeStart] at symbols space ⊢
  omega

/-- The section headers are read where the file header says, if the file reaches that far. -/
theorem readSections_eq (layout : Layout) :
    readSections file encoding layout.readHeader =
      match table? file layout.sectionTableStart 64 6 with
      | none => .error .sectionTable
      | some entries => .ok (entries.map (.ofBytes encoding)) := by
  have start : layout.readHeader.sectionOffset ≠ 0 := Nat.ne_of_gt (sectionTableStart_pos layout)
  have count : sectionCount file encoding layout.readHeader = .ok 6 := rfl
  have width : layout.readHeader.sectionEntrySize = encoding.sectionEntrySize := rfl
  rw [readSections, if_neg start, count]
  simp only [bind, Except.bind]
  rw [if_neg (by decide), if_neg (not_not_intro width)]
  rfl

theorem readSections_readHeader (fileFits : fixture.toBytes.length < 2 ^ 64)
    (content : file.data.toList = fixture.toBytes) :
    readSections file encoding fixture.layout.readHeader = .ok fixture.layout.sections := by
  have stands := fixture.runAt_sectionTable
  rw [← content, sectionTable_eq_flatten] at stands
  have table : table? file fixture.layout.sectionTableStart 64 6 =
      some fixture.layout.sectionRuns :=
    table?_of_runAt (fun _ => length_of_mem_sectionRuns) stands
  rw [readSections_eq, table]
  exact congrArg Except.ok (map_ofBytes_sectionRuns fileFits)

theorem strings?_eq_some {s : Elf.Section} (fits : s.offset + s.size < 2 ^ 64) :
    s.strings? = some ⟨s.offset, s.offset + s.size⟩ :=
  if_pos fits

/-- The strings for the names of sections, where they stand in the file. -/
def Layout.sectionStringArea (layout : Layout) : StringArea :=
  ⟨layout.sectionStringStart, layout.sectionStringStart + sectionStrings.bytes.length⟩

def Layout.stringArea (layout : Layout) : StringArea :=
  ⟨layout.stringStart, layout.stringStart + layout.strings.bytes.length⟩

theorem readNames_sections (fileFits : fixture.toBytes.length < 2 ^ 64) :
    readNames file encoding fixture.layout.readHeader fixture.layout.sections =
      .ok (some fixture.layout.sectionStringArea) := by
  have fits : fixture.layout.sectionStringStart + sectionStrings.bytes.length < 2 ^ 64 :=
    (fixture.runAt_sectionStrings.stop_le).trans_lt fileFits
  have area : fixture.layout.sectionStringSection.strings? =
      some fixture.layout.sectionStringArea := strings?_eq_some fits
  have sections : fixture.layout.sections.isEmpty = false := rfl
  have index : nameTableIndex file encoding fixture.layout.readHeader = .ok 5 := rfl
  have present : fixture.layout.sections[5]? = some fixture.layout.sectionStringSection := rfl
  have type : fixture.layout.sectionStringSection.type = 3 := rfl
  rw [readNames, sections, index]
  simp [bind, Except.bind, present, type, absentType, area]

theorem readSymbols_symbolSection (content : file.data.toList = fixture.toBytes) :
    readSymbols file encoding fixture.layout.symbolSection =
      .ok (fixture.symbolEntries.map (.ofBytes encoding)) := by
  have stands := fixture.runAt_symbolTable
  rw [← content, symbolTable_eq_flatten] at stands
  have table := table?_of_runAt (fun _ => length_of_mem_symbolEntries) stands
  have size : fixture.layout.symbolSection.size = 24 * fixture.symbolEntries.length := by
    rw [length_symbolEntries]
    rfl
  have whole : fixture.layout.symbolSection.size % encoding.symbolEntrySize = 0 := by
    rw [size]
    exact Nat.mul_mod_right 24 _
  have count : fixture.layout.symbolSection.size / encoding.symbolEntrySize =
      fixture.symbolEntries.length := by
    rw [size]
    exact Nat.mul_div_cancel_left _ (by decide)
  have entries : table? file fixture.layout.symbolSection.offset encoding.symbolEntrySize
      fixture.symbolEntries.length = some fixture.symbolEntries := table
  rw [readSymbols, if_neg (not_not_intro whole), count, entries]

theorem linkedStrings_sections (fileFits : fixture.toBytes.length < 2 ^ 64) :
    linkedStrings fixture.layout.sections 4 = .ok (some fixture.layout.stringArea) := by
  have fits : fixture.layout.stringStart + fixture.layout.strings.bytes.length < 2 ^ 64 :=
    (fixture.runAt_strings.stop_le).trans_lt fileFits
  have area : fixture.layout.stringSection.strings? = some fixture.layout.stringArea :=
    strings?_eq_some fits
  have present : fixture.layout.sections[4]? = some fixture.layout.stringSection := rfl
  have type : fixture.layout.stringSection.type = stringTableType := rfl
  simp [linkedStrings, present, type, area]

theorem readSymbolTable_sections (fileFits : fixture.toBytes.length < 2 ^ 64)
    (content : file.data.toList = fixture.toBytes) :
    readSymbolTable file encoding fixture.layout.sections symbolTableType =
      .ok (3, ⟨fixture.symbolEntries.map (.ofBytes encoding), some fixture.layout.stringArea⟩) := by
  have first : fixture.layout.sections.zipIdx.find? (·.1.type = symbolTableType) =
      some (fixture.layout.symbolSection, 3) := rfl
  have link : fixture.layout.symbolSection.link = 4 := rfl
  rw [readSymbolTable, first]
  simp only [readSymbols_symbolSection content, link, linkedStrings_sections fileFits]
  rfl

theorem readSymbolTable_dynamic (layout : Layout) :
    readSymbolTable file encoding layout.sections dynamicSymbolTableType = .ok (0, ⟨[], none⟩) :=
  rfl

theorem checkRelocations_sections (layout : Layout) :
    checkRelocations layout.sections 3 layout.sections.reverse = .ok () := rfl

def read (fixture : Fixture) : Elf.File where
  sections := fixture.layout.sections
  names := some fixture.layout.sectionStringArea
  symbols := ⟨fixture.symbolEntries.map (.ofBytes encoding), some fixture.layout.stringArea⟩
  dynamicSymbols := ⟨[], none⟩

theorem readTables_readHeader (fileFits : fixture.toBytes.length < 2 ^ 64)
    (content : file.data.toList = fixture.toBytes) :
    readTables file encoding fixture.layout.readHeader = .ok fixture.read := by
  simp only [readTables, checkPrograms_readHeader, readSections_readHeader fileFits content,
    readNames_sections fileFits, readSymbolTable_sections fileFits content,
    readSymbolTable_dynamic, checkRelocations_sections, bind, Except.bind]
  rfl

theorem sectionTableStart_lt (fileFits : fixture.toBytes.length < 2 ^ 64) :
    fixture.layout.sectionTableStart < 2 ^ 64 := by
  rw [length_toBytes_eq_add] at fileFits
  omega

/-- A file that starts with the header is read as the header says. -/
theorem parse_of_header {layout : Layout} (stands : RunAt file.data.toList 0 layout.header)
    (fits : layout.sectionTableStart < 2 ^ 64) :
    Elf.parse file true = readTables file encoding layout.readHeader := by
  have header : window? file 0 (Encoding.headerSize ⟨true, .little⟩) = some layout.header := by
    change window? file 0 64 = _
    rw [← length_header layout]
    exact window?_of_runAt stands
  have style : encodingOf true layout.header = .ok encoding := rfl
  rw [Elf.parse, header]
  simp only [style, bind, Except.bind, ofBytes_header fits]

theorem parse_toBytes (fileFits : fixture.toBytes.length < 2 ^ 64)
    (content : file.data.toList = fixture.toBytes) :
    Elf.parse file true = .ok fixture.read := by
  have stands := fixture.runAt_header
  rw [← content] at stands
  rw [parse_of_header stands (sectionTableStart_lt fileFits)]
  exact readTables_readHeader fileFits content

end Tables

end SymbolFootprint.Fixture
