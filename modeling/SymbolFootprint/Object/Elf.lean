import SymbolFootprint.Object.Contents

/-!
Reading ELF files of both classes and both byte orders.

`Elf.parse` checks the tables that a file declares in a fixed order and reports the first fault. Its
result keeps the tables as they stand in the file, and `Elf.File.contents` reads names and sizes off
them.
-/

namespace SymbolFootprint.Elf

inductive Fault where
  | header
  | unsupportedHeader
  | programCount
  | programEntrySize
  | programTable
  | sectionEntrySize
  | sectionZero
  | sectionTable
  | noNameTable
  | nameTableIndex
  | nameTableSize
  | symbolTable
  | sectionIndex
  | stringTableType
  | stringTableSize
  | extendedIndices
  | relocationTarget
  | nestedRelocation
deriving DecidableEq

namespace Fault

def message : Fault → String
  | .header => "Invalid ELF header size or alignment"
  | .unsupportedHeader => "Unsupported ELF header"
  | .programCount => "Missing ELF section headers for e_phnum overflow"
  | .programEntrySize => "Invalid ELF program header entry size"
  | .programTable => "Invalid ELF program header size or alignment"
  | .sectionEntrySize => "Invalid ELF section header entry size"
  | .sectionZero => "Invalid ELF section header offset or size"
  | .sectionTable => "Invalid ELF section header offset/size/alignment"
  | .noNameTable => "Missing ELF e_shstrndx"
  | .nameTableIndex => "Invalid ELF e_shstrndx"
  | .nameTableSize => "Invalid ELF shstrtab size"
  | .symbolTable => "Invalid ELF symbol table data"
  | .sectionIndex => "Invalid ELF section index"
  | .stringTableType => "Invalid ELF string section type"
  | .stringTableSize => "Invalid ELF string section offset or size"
  | .extendedIndices => "Invalid ELF symtab_shndx data"
  | .relocationTarget => "Invalid ELF sh_info for relocation section"
  | .nestedRelocation => "Unsupported ELF sh_info for relocation section"

end Fault

/-- How a file writes its numbers: the wide class has addresses of 64 bits, the narrow one of 32. -/
structure Encoding where
  wide : Bool
  order : ByteOrder
deriving DecidableEq

/-- The start and the length of a field. -/
abbrev Place := Nat × Nat

namespace Encoding

/-- A number, at the first place in the narrow class and at the second one in the wide class. -/
def read (encoding : Encoding) (narrow wide : Place) (bytes : List UInt8) : Nat :=
  let place := if encoding.wide then wide else narrow
  encoding.order.number (field place.1 place.2 bytes)

def headerSize (encoding : Encoding) : Nat := if encoding.wide then 64 else 52

def programEntrySize (encoding : Encoding) : Nat := if encoding.wide then 56 else 32

def sectionEntrySize (encoding : Encoding) : Nat := if encoding.wide then 64 else 40

def symbolEntrySize (encoding : Encoding) : Nat := if encoding.wide then 24 else 16

end Encoding

/-- The fields of the file header that lead to the tables. -/
structure Header where
  programOffset : Nat
  sectionOffset : Nat
  programEntrySize : Nat
  programCount : Nat
  sectionEntrySize : Nat
  sectionCount : Nat
  nameTable : Nat
deriving DecidableEq

def Header.ofBytes (encoding : Encoding) (bytes : List UInt8) : Header where
  programOffset := encoding.read (28, 4) (32, 8) bytes
  sectionOffset := encoding.read (32, 4) (40, 8) bytes
  programEntrySize := encoding.read (42, 2) (54, 2) bytes
  programCount := encoding.read (44, 2) (56, 2) bytes
  sectionEntrySize := encoding.read (46, 2) (58, 2) bytes
  sectionCount := encoding.read (48, 2) (60, 2) bytes
  nameTable := encoding.read (50, 2) (62, 2) bytes

structure Section where
  name : Nat
  type : Nat
  offset : Nat
  size : Nat
  link : Nat
  info : Nat
deriving DecidableEq

def Section.ofBytes (encoding : Encoding) (bytes : List UInt8) : Section where
  name := encoding.read (0, 4) (0, 4) bytes
  type := encoding.read (4, 4) (4, 4) bytes
  offset := encoding.read (16, 4) (24, 8) bytes
  size := encoding.read (20, 4) (32, 8) bytes
  link := encoding.read (24, 4) (40, 4) bytes
  info := encoding.read (28, 4) (44, 4) bytes

structure Symbol where
  name : Nat
  info : Nat
  sectionIndex : Nat
  size : Nat
deriving DecidableEq

def Symbol.ofBytes (encoding : Encoding) (bytes : List UInt8) : Symbol where
  name := encoding.read (0, 4) (0, 4) bytes
  info := encoding.read (12, 1) (4, 1) bytes
  sectionIndex := encoding.read (14, 2) (6, 2) bytes
  size := encoding.read (8, 4) (16, 8) bytes

def symbolTableType : Nat := 2

def stringTableType : Nat := 3

def relocationTypes : List Nat := [4, 9]

/-- A section of this type takes no room in the file. -/
def absentType : Nat := 8

def dynamicSymbolTableType : Nat := 11

def extendedIndicesType : Nat := 18

/-- A symbol table with the strings for its names, where it has any. -/
structure SymbolTable where
  symbols : List Symbol
  names : Option StringArea
deriving DecidableEq

structure File where
  sections : List Section
  names : Option StringArea
  symbols : SymbolTable
  dynamicSymbols : SymbolTable
deriving DecidableEq

/-- How the file writes its numbers, from the bytes after the magic number. -/
def encodingOf (wide : Bool) (start : List UInt8) : Except Fault Encoding :=
  match (start.drop 5).map UInt8.toNat with
  | 1 :: 1 :: _ => .ok ⟨wide, .little⟩
  | 2 :: 1 :: _ => .ok ⟨wide, .big⟩
  | _ => .error .unsupportedHeader

/-- The string area of a section, unless it ends beyond all numbers of 64 bits. -/
def Section.strings? (s : Section) : Option StringArea :=
  if s.offset + s.size < 0x10000000000000000 then some ⟨s.offset, s.offset + s.size⟩ else none

section Checks

variable (file : ByteArray) (encoding : Encoding) (header : Header)

/-- The first section header, which holds the numbers that are too large for the file header. -/
def sectionZero : Except Fault (Option Section) :=
  if header.sectionOffset = 0 then .ok none
  else if header.sectionEntrySize ≠ encoding.sectionEntrySize then .error .sectionEntrySize
  else
    match window? file header.sectionOffset encoding.sectionEntrySize with
    | none => .error .sectionZero
    | some bytes => .ok (some (.ofBytes encoding bytes))

def programCount : Except Fault Nat :=
  if header.programCount < 0xFFFF then .ok header.programCount
  else do
    match ← sectionZero file encoding header with
    | none => .error .programCount
    | some first => .ok first.info

/-- Is the table of program headers where the file header says? -/
def checkPrograms : Except Fault Unit :=
  if header.programOffset = 0 then .ok ()
  else do
    let count ← programCount file encoding header
    if count = 0 then .ok ()
    else if header.programEntrySize ≠ encoding.programEntrySize then .error .programEntrySize
    else
      match window? file header.programOffset (count * encoding.programEntrySize) with
      | none => .error .programTable
      | some _ => .ok ()

def sectionCount : Except Fault Nat :=
  if header.sectionCount ≠ 0 then .ok header.sectionCount
  else do
    match ← sectionZero file encoding header with
    | none => .ok 0
    | some first => .ok first.size

def readSections : Except Fault (List Section) :=
  if header.sectionOffset = 0 then .ok []
  else do
    let count ← sectionCount file encoding header
    if count = 0 then .ok []
    else if header.sectionEntrySize ≠ encoding.sectionEntrySize then .error .sectionEntrySize
    else
      match table? file header.sectionOffset encoding.sectionEntrySize count with
      | none => .error .sectionTable
      | some entries => .ok (entries.map (.ofBytes encoding))

/-- The index of the section with the names of sections. -/
def nameTableIndex : Except Fault Nat :=
  if header.nameTable ≠ 0xFFFF then .ok header.nameTable
  else do
    match ← sectionZero file encoding header with
    | none => .error .noNameTable
    | some first => .ok first.link

def readNames (sections : List Section) : Except Fault (Option StringArea) :=
  if sections.isEmpty then .ok none
  else do
    let index ← nameTableIndex file encoding header
    if index = 0 then .error .noNameTable
    else
      match sections[index]? with
      | none => .error .nameTableIndex
      | some s =>
        if s.type = absentType then .ok none
        else
          match s.strings? with
          | none => .error .nameTableSize
          | some area => .ok (some area)

/-- The strings that a symbol table links to; link zero stands for none. -/
def linkedStrings (sections : List Section) (link : Nat) : Except Fault (Option StringArea) :=
  if link = 0 then .ok none
  else
    match sections[link]? with
    | none => .error .sectionIndex
    | some s =>
      if s.type ≠ stringTableType then .error .stringTableType
      else
        match s.strings? with
        | none => .error .stringTableSize
        | some area => .ok (some area)

/-- Does a section hold a whole number of entries of the given width? -/
def holdsEntries (s : Section) (width : Nat) : Bool :=
  s.size % width = 0 && (window? file s.offset s.size).isSome

def readSymbols (s : Section) : Except Fault (List Symbol) :=
  if s.size % encoding.symbolEntrySize ≠ 0 then .error .symbolTable
  else
    match table? file s.offset encoding.symbolEntrySize (s.size / encoding.symbolEntrySize) with
    | none => .error .symbolTable
    | some entries => .ok (entries.map (.ofBytes encoding))

/-- The first symbol table of the given type, with the index of its section. A file without one has
an empty table at index zero. -/
def readSymbolTable (sections : List Section) (type : Nat) : Except Fault (Nat × SymbolTable) :=
  match sections.zipIdx.find? (·.1.type = type) with
  | none => .ok (0, ⟨[], none⟩)
  | some (s, index) => do
    let symbols ← readSymbols file encoding s
    let names ← linkedStrings sections s.link
    let extended := sections.filter fun t => t.type = extendedIndicesType && t.link = index
    if extended.all (holdsEntries file · 4) then .ok (index, ⟨symbols, names⟩)
    else .error .extendedIndices

/-- Do the relocations for the given symbol table apply to sections of the file that are no
relocations themselves? They are looked at from the last section to the first. -/
def checkRelocations (sections : List Section) (symbolTable : Nat) :
    List Section → Except Fault Unit
  | [] => .ok ()
  | s :: earlier =>
    if s.type ∈ relocationTypes ∧ s.link = symbolTable ∧ s.info ≠ 0 then
      match sections[s.info]? with
      | none => .error .relocationTarget
      | some target =>
        if target.type ∈ relocationTypes then .error .nestedRelocation
        else checkRelocations sections symbolTable earlier
    else checkRelocations sections symbolTable earlier

def readTables : Except Fault File := do
  checkPrograms file encoding header
  let sections ← readSections file encoding header
  let names ← readNames file encoding header sections
  let (index, symbols) ← readSymbolTable file encoding sections symbolTableType
  let (_, dynamicSymbols) ← readSymbolTable file encoding sections dynamicSymbolTableType
  checkRelocations sections index sections.reverse
  .ok { sections, names, symbols, dynamicSymbols }

end Checks

/-- Reads a file that starts with the magic number of ELF, of the wide class or of the narrow one.
-/
def parse (file : ByteArray) (wide : Bool) : Except Fault File :=
  match window? file 0 (Encoding.headerSize ⟨wide, .little⟩) with
  | none => .error .header
  | some start => do
    let encoding ← encodingOf wide start
    readTables file encoding (.ofBytes encoding start)

section Contents

variable (file : ByteArray)

/-- The name at an offset of a string area, if it can be shown. -/
def nameAt? (names : Option StringArea) (offset : Nat) : Option String := do
  shownName? (← (← names).string? file offset)

def Section.row? (names : Option StringArea) (s : Section) : Option SizeRow :=
  (nameAt? file names s.name).map fun name => (name, .clamp s.size)

/-- The record for a symbol, unless it is defined elsewhere or cannot be shown. The low four bits of
the information byte are the type code. -/
def Symbol.record? (names : Option StringArea) (symbol : Symbol) : Option SymbolRecord :=
  if symbol.sectionIndex = 0 then none
  else
    (nameAt? file names symbol.name).map fun name =>
      ⟨name, .clamp symbol.size, .ofElfType (symbol.info % 16)⟩

/-- The records of a symbol table, whose first entry stands for no symbol. -/
def SymbolTable.records (table : SymbolTable) : List SymbolRecord :=
  (table.symbols.drop 1).filterMap (Symbol.record? file table.names)

/-- The section at index zero is none. -/
def File.contents (elf : File) : Contents where
  sections := (elf.sections.drop 1).filterMap (Section.row? file elf.names)
  symbols := elf.symbols.records file
  dynamicSymbols := elf.dynamicSymbols.records file

end Contents

end SymbolFootprint.Elf
