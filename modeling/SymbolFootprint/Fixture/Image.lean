import SymbolFootprint.Fixture.StringTable
import SymbolFootprint.Bytes
import SymbolFootprint.Size

/-!
Writing small object files: functions and variables of given sizes, in a relocatable ELF file of the
wide class with its lowest bytes first.

The file holds the header, the code, the variables, the symbol table, the two string tables and the
section headers, in this order.
-/

namespace SymbolFootprint

namespace Fixture

inductive Kind where
  | function
  | object
deriving DecidableEq

structure Symbol where
  kind : Kind
  name : String
  size : Nat
deriving DecidableEq

end Fixture

structure Fixture where
  symbols : List Fixture.Symbol
deriving DecidableEq

namespace Fixture

def empty : Fixture := ⟨[]⟩

def add (fixture : Fixture) (kind : Kind) (name : String) (size : Nat) : Fixture :=
  ⟨fixture.symbols ++ [⟨kind, name, size⟩]⟩

def symbolCount (fixture : Fixture) : Nat :=
  fixture.symbols.length

def totalSize (fixture : Fixture) : Nat :=
  (fixture.symbols.map Symbol.size).foldr (· + ·) 0

def sizeOf (fixture : Fixture) (kind : Kind) : Nat :=
  ((fixture.symbols.filter (·.kind = kind)).map Symbol.size).foldr (· + ·) 0

/-- The symbols with their places in the code or among the variables. -/
def placeSymbols (functions objects : Nat) : List Symbol → List (Symbol × Nat)
  | [] => []
  | symbol :: rest =>
    match symbol.kind with
    | .function => (symbol, functions) :: placeSymbols (functions + symbol.size) objects rest
    | .object => (symbol, objects) :: placeSymbols functions (objects + symbol.size) rest

def nameBytes (name : String) : List UInt8 :=
  name.toUTF8.data.toList

def sectionNames : List String :=
  [".text", ".data", ".symtab", ".strtab", ".shstrtab"]

def sectionStrings : StringTable :=
  .ofStrings (sectionNames.map nameBytes)

def bytes (width n : Nat) : List UInt8 :=
  ByteOrder.littleBytes width n

def aligned (n : Nat) : Nat :=
  (n + 7) / 8 * 8

/-- The zeros from a place up to the next multiple of eight. -/
def padding (n : Nat) : List UInt8 :=
  List.replicate (aligned n - n) 0

/-- What the places of the parts of a file depend on. -/
structure Layout where
  codeSize : Nat
  dataSize : Nat
  symbolCount : Nat
  /-- The names of the symbols. -/
  strings : StringTable
deriving DecidableEq

def layout (fixture : Fixture) : Layout where
  codeSize := fixture.sizeOf .function
  dataSize := fixture.sizeOf .object
  symbolCount := fixture.symbolCount
  strings := .ofStrings (fixture.symbols.map fun symbol => nameBytes symbol.name)

/-- A section header without its name and an address. -/
structure SectionEntry where
  type : Nat
  flags : Nat := 0
  offset : Nat
  size : Nat
  link : Nat := 0
  info : Nat := 0
  alignment : Nat := 1
  entrySize : Nat := 0
deriving DecidableEq

/-- The section header for the name with the given index. -/
def SectionEntry.toBytes (entry : SectionEntry) (index : Nat) : List UInt8 :=
  bytes 4 (sectionStrings.offset index) ++ bytes 4 entry.type ++
    bytes 8 entry.flags ++ bytes 8 0 ++ bytes 8 entry.offset ++ bytes 8 entry.size ++
    bytes 4 entry.link ++ bytes 4 entry.info ++ bytes 8 entry.alignment ++ bytes 8 entry.entrySize

namespace Layout

def codeStart : Nat := 64

def dataStart (layout : Layout) : Nat :=
  codeStart + layout.codeSize

def dataStop (layout : Layout) : Nat :=
  layout.dataStart + layout.dataSize

def symbolStart (layout : Layout) : Nat :=
  aligned layout.dataStop

/-- The symbol table has an entry for no symbol in front. -/
def symbolTableSize (layout : Layout) : Nat :=
  24 * (layout.symbolCount + 1)

def stringStart (layout : Layout) : Nat :=
  layout.symbolStart + layout.symbolTableSize

def sectionStringStart (layout : Layout) : Nat :=
  layout.stringStart + layout.strings.bytes.length

def sectionStringStop (layout : Layout) : Nat :=
  layout.sectionStringStart + sectionStrings.bytes.length

def sectionTableStart (layout : Layout) : Nat :=
  aligned layout.sectionStringStop

def sectionEntries (layout : Layout) : List SectionEntry :=
  [{ type := 1, flags := 6, offset := codeStart, size := layout.codeSize },
    { type := 1, flags := 3, offset := layout.dataStart, size := layout.dataSize },
    { type := 2, offset := layout.symbolStart, size := layout.symbolTableSize, link := 4, info := 1,
      alignment := 8, entrySize := 24 },
    { type := 3, offset := layout.stringStart, size := layout.strings.bytes.length },
    { type := 3, offset := layout.sectionStringStart, size := sectionStrings.bytes.length }]

/-- The section headers, after one for no section. -/
def sectionTable (layout : Layout) : List UInt8 :=
  List.replicate 64 0 ++
    layout.sectionEntries.zipIdx.flatMap fun entry => entry.1.toBytes entry.2

def header (layout : Layout) : List UInt8 :=
  [0x7F, 0x45, 0x4C, 0x46, 2, 1, 1, 0] ++ bytes 8 0 ++ bytes 2 1 ++ bytes 2 62 ++ bytes 4 1 ++
    bytes 8 0 ++ bytes 8 0 ++ bytes 8 layout.sectionTableStart ++ bytes 4 0 ++ bytes 2 64 ++
    bytes 2 0 ++ bytes 2 0 ++ bytes 2 64 ++ bytes 2 6 ++ bytes 2 5

/-- The entry of the symbol with the given index. All symbols are global and hidden; functions are
in section 1, variables in section 2. -/
def symbolEntry (layout : Layout) (index : Nat) (symbol : Symbol) (place : Nat) : List UInt8 :=
  let (info, sectionIndex) :=
    match symbol.kind with
    | .function => (0x12, 1)
    | .object => (0x11, 2)
  bytes 4 (layout.strings.offset index) ++ bytes 1 info ++ bytes 1 2 ++
    bytes 2 sectionIndex ++ bytes 8 place ++ bytes 8 symbol.size

end Layout

/-- The symbol table, which starts with an entry for no symbol. -/
def symbolTable (fixture : Fixture) (layout : Layout) : List UInt8 :=
  List.replicate 24 0 ++
    (placeSymbols 0 0 fixture.symbols).zipIdx.flatMap fun ((symbol, place), index) =>
      layout.symbolEntry index symbol place

def toBytes (fixture : Fixture) : List UInt8 :=
  let layout := fixture.layout
  layout.header ++ List.replicate layout.codeSize 0xC3 ++ List.replicate layout.dataSize 0 ++
    padding layout.dataStop ++ fixture.symbolTable layout ++ layout.strings.bytes ++
    sectionStrings.bytes ++ padding layout.sectionStringStop ++ layout.sectionTable

inductive BuildFault where
  | zeroInName
deriving DecidableEq

/-- The object file. A name that holds a zero byte has no place in a table of strings. -/
def build (fixture : Fixture) : Except BuildFault ByteArray :=
  if fixture.symbols.any fun symbol => symbol.name.toList.contains '\x00' then .error .zeroInName
  else .ok ⟨fixture.toBytes.toArray⟩

end Fixture

end SymbolFootprint
