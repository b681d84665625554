import SymbolFootprint.Object.Contents

/-!
Reading COFF object files.

A symbol may be followed by auxiliary entries of the same width, which tell more about it and are no
symbols themselves.
-/

namespace SymbolFootprint.Coff

inductive Fault where
  | header
  | sectionTable
  | symbolTable
  | noStringTable
deriving DecidableEq

namespace Fault

def message : Fault → String
  | .header => "Invalid COFF file header size or alignment"
  | .sectionTable => "Invalid COFF/PE section headers"
  | .symbolTable => "Invalid COFF symbol table offset or size"
  | .noStringTable => "Missing COFF string table"

end Fault

def numberAt (start width : Nat) (bytes : List UInt8) : Nat :=
  ByteOrder.little.number (field start width bytes)

def headerSize : Nat := 20

def sectionEntrySize : Nat := 40

def symbolEntrySize : Nat := 18

structure File where
  sections : List (List UInt8)
  /-- Symbols and auxiliary entries, as they stand in the file. -/
  entries : List (List UInt8)
  strings : Option StringArea
deriving DecidableEq

/-- The symbol table and the strings after it, which begin with their own length. -/
def readSymbols (file : ByteArray) (start count : Nat) :
    Except Fault (List (List UInt8) × Option StringArea) :=
  if start = 0 then .ok ([], none)
  else
    match table? file start symbolEntrySize count with
    | none => .error .symbolTable
    | some entries =>
      let stringStart := start + count * symbolEntrySize
      match window? file stringStart 4 with
      | none => .error .noStringTable
      | some length =>
        .ok (entries, some ⟨stringStart, stringStart + ByteOrder.little.number length⟩)

def parse (file : ByteArray) : Except Fault File :=
  match window? file 0 headerSize with
  | none => .error .header
  | some header =>
    let sectionStart := headerSize + numberAt 16 2 header
    match table? file sectionStart sectionEntrySize (numberAt 2 2 header) with
    | none => .error .sectionTable
    | some sections => do
      let (entries, strings) ← readSymbols file (numberAt 8 4 header) (numberAt 12 4 header)
      .ok { sections, entries, strings }

/-- The bytes of a name before the zeros that fill its field. -/
def inlineName (bytes : List UInt8) : List UInt8 :=
  (field 0 8 bytes).takeWhile (· ≠ 0)

/-- The value of a character in offsets to base 64. -/
def base64Value? (byte : UInt8) : Option Nat :=
  let c := Char.ofNat byte.toNat
  if 'A' ≤ c ∧ c ≤ 'Z' then some (c.toNat - 'A'.toNat)
  else if 'a' ≤ c ∧ c ≤ 'z' then some (c.toNat - 'a'.toNat + 26)
  else if '0' ≤ c ∧ c ≤ '9' then some (c.toNat - '0'.toNat + 52)
  else if c = '+' then some 62
  else if c = '/' then some 63
  else none

def decimalValue? (byte : UInt8) : Option Nat :=
  let c := Char.ofNat byte.toNat
  if '0' ≤ c ∧ c ≤ '9' then some (c.toNat - '0'.toNat) else none

def digitsValue? (base : Nat) (value? : UInt8 → Option Nat) (digits : List UInt8) : Option Nat :=
  digits.foldlM (fun number digit => (value? digit).map (number * base + ·)) 0

inductive SectionName where
  | inline (bytes : List UInt8)
  | atOffset (offset : Option Nat)
deriving DecidableEq

/-- A name that starts with a slash is the offset of the name in the strings: in decimal digits, or
after a second slash in digits to base 64. -/
def sectionName (entry : List UInt8) : SectionName :=
  match (field 0 8 entry).map fun byte => Char.ofNat byte.toNat with
  | '/' :: '/' :: _ =>
    .atOffset ((digitsValue? 64 base64Value? (field 2 6 entry)).filter (· < 0x100000000))
  | '/' :: _ =>
    .atOffset (digitsValue? 10 decimalValue? ((field 1 7 entry).takeWhile (· ≠ 0)))
  | _ => .inline (inlineName entry)

section Contents

variable (file : ByteArray) (strings : Option StringArea)

def stringAt? (offset : Nat) : Option (List UInt8) := do
  (← strings).string? file offset

def sectionRow? (entry : List UInt8) : Option SizeRow := do
  let bytes ←
    match sectionName entry with
    | .inline bytes => some bytes
    | .atOffset offset => stringAt? file strings (← offset)
  let name ← shownName? bytes
  some (name, .clamp (numberAt 16 4 entry))

structure Symbol where
  entry : List UInt8
  auxiliary : List (List UInt8)
deriving DecidableEq

namespace Symbol

variable (symbol : Symbol)

def value : Nat := numberAt 8 4 symbol.entry

def sectionNumber : Nat := numberAt 12 2 symbol.entry

def type : Nat := numberAt 14 2 symbol.entry

def storageClass : Nat := numberAt 16 1 symbol.entry

/-- How many auxiliary entries the symbol announces; the table may end before the last of them. -/
def auxiliaryCount : Nat := numberAt 17 1 symbol.entry

def externalClass : Nat := 2

def staticClass : Nat := 3

def weakClass : Nat := 105

def isFunction : Bool := (symbol.type / 16) % 4 = 2

/-- A symbol that stands for a section, which its auxiliary entry describes. -/
def isSection : Bool :=
  symbol.storageClass = staticClass && symbol.auxiliaryCount ≠ 0 && symbol.type = 0

def isUndefined : Bool :=
  symbol.storageClass = externalClass && symbol.sectionNumber = 0 && symbol.value = 0

def auxiliaryNumber (start : Nat) : Nat :=
  match symbol.auxiliary with
  | [] => 0
  | first :: _ => numberAt start 4 first

/-- The size of the symbol. A common symbol has no section, and its value is the size. -/
def size : Nat :=
  if symbol.isSection then symbol.auxiliaryNumber 0
  else if symbol.storageClass = externalClass then
    if symbol.sectionNumber = 0 then symbol.value
    else if symbol.auxiliaryCount ≠ 0 && symbol.isFunction then symbol.auxiliaryNumber 4
    else 0
  else 0

def kind : SymbolKind :=
  if symbol.isSection then .other
  else if symbol.storageClass ∈ [externalClass, staticClass, weakClass] then
    if symbol.isFunction then .function else .object
  else .other

/-- The bytes of the name: in the entry, or at an offset of the strings after four zero bytes. -/
def nameBytes? : Option (List UInt8) :=
  if (symbol.entry.head?).any (· = 0) then stringAt? file strings (numberAt 4 4 symbol.entry)
  else some (inlineName symbol.entry)

def record? : Option SymbolRecord :=
  if symbol.isUndefined then none
  else do
    let name ← shownName? (← symbol.nameBytes? file strings)
    some ⟨name, .clamp symbol.size, symbol.kind⟩

end Symbol

/-- The symbols among the entries, each with the auxiliary entries after it. `skip` entries still
belong to the symbol before. -/
def symbolsFrom : Nat → List (List UInt8) → List Symbol
  | _, [] => []
  | 0, entry :: rest =>
    let count := numberAt 17 1 entry
    ⟨entry, rest.take count⟩ :: symbolsFrom count rest
  | skip + 1, _ :: rest => symbolsFrom skip rest

end Contents

def File.contents (file : ByteArray) (coff : File) : Contents where
  sections := coff.sections.filterMap (sectionRow? file coff.strings)
  symbols := (symbolsFrom 0 coff.entries).filterMap (Symbol.record? file coff.strings)
  dynamicSymbols := []

end SymbolFootprint.Coff
