import SymbolFootprint.Object.Contents

/-!
Formats of binaries that another reader makes sense of.

Such a reader gives sections and symbols as they stand in the file (`Foreign.View`). Of these the
named sections are kept, and the named symbols that are defined (`Foreign.View.contents`).
-/

namespace SymbolFootprint.Foreign

inductive Format where
  /-- Programs and libraries behind a DOS header. -/
  | portable
  /-- Object files with more sections than usual. -/
  | bigCoff
  | narrowMachO (order : ByteOrder)
  | xcoff (wide : Bool)
deriving DecidableEq

structure Section where
  /-- The name, if it can be read. -/
  name? : Option String
  size : Size
deriving DecidableEq

def Section.row? (s : Section) : Option SizeRow :=
  match s.name? with
  | none | some "" => none
  | some name => some (name, s.size)

structure Symbol where
  undefined : Bool
  /-- The name, if it can be read. -/
  name? : Option String
  size : Size
  kind : SymbolKind
deriving DecidableEq

def Symbol.record? (symbol : Symbol) : Option SymbolRecord :=
  if symbol.undefined then none
  else
    match symbol.name? with
    | none | some "" => none
    | some name => some ⟨name, symbol.size, symbol.kind⟩

structure View where
  sections : List Section
  symbols : List Symbol
  dynamicSymbols : List Symbol
deriving DecidableEq

def View.contents (view : View) : Contents where
  sections := view.sections.filterMap Section.row?
  symbols := view.symbols.filterMap Symbol.record?
  dynamicSymbols := view.dynamicSymbols.filterMap Symbol.record?

/-- What a file shows in a format, or the reason why it cannot be read. -/
abbrev Reader := Format → ByteArray → Except String View

/-- The reader of no format at all. -/
def Reader.none : Reader := fun format _ =>
  match format with
  | .portable => .error "Unknown MS-DOS file"
  | .bigCoff => .error "Unknown anon object file"
  | .narrowMachO _ => .error "Invalid Mach-O header size or alignment"
  | .xcoff _ => .error "Invalid XCOFF file header"

end SymbolFootprint.Foreign
