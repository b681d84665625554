import SymbolFootprint.Object.Contents

/-!
Reading Mach-O files with addresses of 64 bits, in both byte orders.

After the header stands a list of load commands; segments bring the sections, and one command says
where the symbols are. Symbols carry no sizes.
-/

namespace SymbolFootprint.MachO

inductive Fault where
  | header
  | segmentSize
  | sectionCount
  | symbolTableSize
  | symbolTable
deriving DecidableEq

namespace Fault

def message : Fault → String
  | .header => "Invalid Mach-O header size or alignment"
  | .segmentSize => "Invalid Mach-O LC_SEGMENT_64 command size"
  | .sectionCount => "Invalid Mach-O number of sections"
  | .symbolTableSize => "Invalid Mach-O LC_SYMTAB command size"
  | .symbolTable => "Invalid Mach-O symbol table offset or size"

end Fault

def headerSize : Nat := 32

def segmentSize : Nat := 72

def sectionEntrySize : Nat := 80

def symbolTableCommandSize : Nat := 24

def symbolEntrySize : Nat := 16

def segmentCommand : Nat := 0x19

def symbolTableCommand : Nat := 2

/-- A load command: its number, and its bytes with the number and the length in front. -/
structure Command where
  number : Nat
  bytes : List UInt8
deriving DecidableEq

/-- The load commands, up to the first one whose length is impossible. -/
def commandsFrom (order : ByteOrder) : Nat → List UInt8 → List Command
  | 0, _ => []
  | count + 1, bytes =>
    let length := order.number (field 4 4 bytes)
    if bytes.length < 8 ∨ length < 8 ∨ bytes.length < length then []
    else
      ⟨order.number (field 0 4 bytes), bytes.take length⟩ ::
        commandsFrom order count (bytes.drop length)

structure File where
  order : ByteOrder
  sections : List (List UInt8)
  symbols : List (List UInt8)
  strings : Option StringArea
deriving DecidableEq

/-- The file with what a load command adds to it. A later symbol table takes the place of an earlier
one. -/
def File.extend (file : ByteArray) (found : File) (command : Command) : Except Fault File :=
  let number (start : Nat) : Nat := found.order.number (field start 4 command.bytes)
  if command.number = segmentCommand then
    if command.bytes.length < segmentSize then .error .segmentSize
    else
      let count := number 64
      let entries := command.bytes.drop segmentSize
      if entries.length < count * sectionEntrySize then .error .sectionCount
      else .ok { found with sections := found.sections ++ chunks sectionEntrySize count entries }
  else if command.number = symbolTableCommand then
    if command.bytes.length < symbolTableCommandSize then .error .symbolTableSize
    else
      match table? file (number 8) symbolEntrySize (number 12) with
      | none => .error .symbolTable
      | some symbols =>
        .ok { found with symbols, strings := some ⟨number 16, number 16 + number 20⟩ }
  else .ok found

def parse (file : ByteArray) (order : ByteOrder) : Except Fault File :=
  match window? file 0 headerSize with
  | none => .error .header
  | some header =>
    let commands :=
      match window? file headerSize (order.number (field 20 4 header)) with
      | none => []
      | some bytes => commandsFrom order (order.number (field 16 4 header)) bytes
    commands.foldlM (File.extend file) ⟨order, [], [], none⟩

/-- The bytes of a name before the zeros that fill its field. -/
def nameIn (start : Nat) (entry : List UInt8) : List UInt8 :=
  (field start 16 entry).takeWhile (· ≠ 0)

def sectionRow? (order : ByteOrder) (entry : List UInt8) : Option SizeRow :=
  (shownName? (nameIn 0 entry)).map fun name => (name, .clamp (order.number (field 40 8 entry)))

/-- The sections that hold constants or variables, by segment and name. -/
def dataSections : List (String × String) :=
  [("__TEXT", "__const"), ("__TEXT", "__cstring"), ("__TEXT", "__eh_frame"),
    ("__TEXT", "__gcc_except_tab"), ("__DATA", "__data"), ("__DATA", "__const"),
    ("__DATA", "__bss"), ("__DATA", "__common")]

def kindIn (entry : List UInt8) : SymbolKind :=
  let text (bytes : List UInt8) : String := String.ofList (Utf8.decodeLossy bytes)
  let place := (text (nameIn 16 entry), text (nameIn 0 entry))
  if place = ("__TEXT", "__text") then .function
  else if place ∈ dataSections then .object
  else .other

/-- The record for a symbol, unless it serves debugging, is defined elsewhere or cannot be shown. -/
def record? (file : ByteArray) (found : File) (entry : List UInt8) : Option SymbolRecord :=
  let type := found.order.number (field 4 1 entry)
  let place := type % 16 / 2 * 2
  if 32 ≤ type ∨ place = 0 then none
  else do
    let bytes ← (← found.strings).string? file (found.order.number (field 0 4 entry))
    let name ← shownName? bytes
    let index := found.order.number (field 5 1 entry)
    let kind :=
      if place = 14 ∧ index ≠ 0 then
        match found.sections[index - 1]? with
        | none => .other
        | some s => kindIn s
      else .other
    some ⟨name, 0, kind⟩

def File.contents (file : ByteArray) (found : File) : Contents where
  sections := found.sections.filterMap (sectionRow? found.order)
  symbols := found.symbols.filterMap (record? file found)
  dynamicSymbols := []

end SymbolFootprint.MachO
