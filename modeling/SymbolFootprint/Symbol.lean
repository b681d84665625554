import SymbolFootprint.Size

/-!
Symbols of a binary, and the three ways in which their kind is written: the type codes of a symbol
table, the words of a `readelf` listing and the letters of an `nm` listing.
-/

namespace SymbolFootprint

inductive SymbolKind where
  | function
  | object
  | other
deriving DecidableEq

namespace SymbolKind

/-- The kind for a type code of an ELF symbol table. Code 10 is a function chosen at load time. -/
def ofElfType : Nat → SymbolKind
  | 1 => .object
  | 2 => .function
  | 10 => .function
  | _ => .other

/-- The kind for an entry of the column `Type` of a `readelf` listing. -/
def ofReadelfType (word : String) : SymbolKind :=
  if word ∈ ["FUNC", "IFUNC"] then .function
  else if word = "OBJECT" then .object
  else .other

/-- The kind for the type letter of an `nm` listing. -/
def ofNmType (letter : String) : SymbolKind :=
  if letter ∈ ["T", "t", "W", "w", "i"] then .function
  else if letter ∈ ["D", "d", "B", "b", "R", "r", "V", "v", "G", "g", "S", "s"] then .object
  else .other

end SymbolKind

/-- A symbol as a backend reports it. -/
structure SymbolRecord where
  identifier : String
  size : Size
  kind : SymbolKind
deriving DecidableEq

namespace SymbolRecord

/-- Does the symbol take part in the totals? It has a size, a name, and is a function or an object.
-/
def attributable (record : SymbolRecord) : Bool :=
  0 < record.size && record.kind ≠ .other && record.identifier ≠ ""

end SymbolRecord

end SymbolFootprint
