import SymbolFootprint.Backend
import SymbolFootprint.Demangler

/-!
The report on one file: its size and sections, and the sizes of its symbols by namespace and by
type.
-/

namespace SymbolFootprint

structure FileReport where
  path : Path
  assembly : String
  fileSize : Size
  sections : SizeTable
  symbolCount : Nat
  namespaces : SizeTable
  types : SizeTable
  /-- The backend that gave the symbols, if one did. -/
  backend : Option String
deriving DecidableEq

namespace FileReport

def attributions (demangler : Demangler) (rules : Rules) (records : List SymbolRecord) :
    List (Attribution × Size) :=
  (records.filter SymbolRecord.attributable).map fun record =>
    (demangler.demangle rules record.identifier, record.size)

/-- The sizes by namespace. The empty namespace is left out. -/
def namespaceSizes (attributions : List (Attribution × Size)) : SizeTable :=
  .collect ((attributions.map fun (attribution, size) => (attribution.scope, size)).filter
    fun row => row.1 ≠ "")

def typeSizes (attributions : List (Attribution × Size)) : SizeTable :=
  .collect (attributions.map fun (attribution, size) => (attribution.typeKey, size))

/-- The sizes of the sections of a file; a file that is not recognized has none. -/
def sectionSizes (reader : Foreign.Reader) (content : ByteArray) : SizeTable :=
  match Contents.ofFile reader content with
  | .error _ => .empty
  | .ok contents => contents.sectionSizes

/-- Is a sum too large as the sizes of sections with equal names are added up? -/
def sectionsOverflow (reader : Foreign.Reader) (content : ByteArray) : Bool :=
  match Contents.ofFile reader content with
  | .error _ => false
  | .ok contents => contents.overflows

/-- The report on a file whose symbols a backend gave, if one did. -/
def ofSelection (demangler : Demangler) (rules : Rules) (target : Backend.Target)
    (selection : Selection) : FileReport :=
  let attributions := attributions demangler rules selection.records
  { path := target.path
    assembly := target.path.assemblyName
    fileSize := .clamp target.content.size
    sections := sectionSizes target.reader target.content
    symbolCount := attributions.length
    namespaces := namespaceSizes attributions
    types := typeSizes attributions
    backend := selection.found.map Found.backend }

/-- The report, unless a checked sum is too large. -/
def aggregate (arithmetic : Arithmetic) (demangler : Demangler) (rules : Rules)
    (target : Backend.Target) (selection : Selection) : Run FileReport :=
  if arithmetic = .checked ∧ sectionsOverflow target.reader target.content then .overflowed
  else .done (.ofSelection demangler rules target selection)

def totalSymbolBytes (report : FileReport) : Size :=
  report.types.total

end FileReport

end SymbolFootprint
