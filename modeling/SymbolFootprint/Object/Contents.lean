import SymbolFootprint.Bytes
import SymbolFootprint.SizeTable
import SymbolFootprint.Symbol
import SymbolFootprint.Text.Utf8

/-!
What a binary shows, whatever its format: the sizes of its named sections, and its symbols.
-/

namespace SymbolFootprint

structure Contents where
  sections : List SizeRow
  symbols : List SymbolRecord
  dynamicSymbols : List SymbolRecord
deriving DecidableEq

namespace Contents

/-- The symbols to count. The dynamic ones stand in for a symbol table that shows none. -/
def records (contents : Contents) : List SymbolRecord :=
  if contents.symbols.isEmpty then contents.dynamicSymbols else contents.symbols

/-- The sizes of sections by name; equal names add up modulo `2 ^ 64`. -/
def sectionSizes (contents : Contents) : SizeTable :=
  .collectWrapping contents.sections

/-- Is a sum too large as the sizes of sections with equal names are added up? -/
def overflows (contents : Contents) : Bool :=
  SizeTable.empty.overflows contents.sections

end Contents

/-- A name that can be shown: text, and not empty. -/
def shownName? (bytes : List UInt8) : Option String :=
  match Utf8.decode? bytes with
  | none => none
  | some [] => none
  | some text => some (String.ofList text)

end SymbolFootprint
