/-!
String tables in which strings share their ends.

The strings are placed in an order that puts a string right after the longer ones that end with it,
so looking at the last string written is enough to find one to point into.
-/

namespace SymbolFootprint

namespace StringTable

/-- A string with its index among the strings of a table. -/
structure Indexed where
  index : Nat
  string : List UInt8
deriving DecidableEq

/-- Does a string come first when strings are compared from their ends, the larger byte first, and a
longer string before its own end? -/
def endsBefore : List UInt8 → List UInt8 → Bool
  | _, [] => true
  | [], _ :: _ => false
  | a :: as, b :: bs => if a = b then endsBefore as bs else b < a

def indexed (strings : List (List UInt8)) : List Indexed :=
  (strings.zipIdx.filter fun entry => entry.1 ≠ []).map fun entry => ⟨entry.2, entry.1⟩

/-- Strings in the order in which they are placed. Equal strings come one after the other. -/
def placingOrder (strings : List Indexed) : List Indexed :=
  let turn (entry : Indexed) : Indexed := { entry with string := entry.string.reverse }
  ((strings.map turn).mergeSort fun a b => endsBefore a.string b.string).map turn

structure Placed where
  index : Nat
  string : List UInt8
  offset : Nat
deriving DecidableEq

/-- Places strings behind `size` bytes of which the last ones are the string `written`. A string
that `written` ends with is not written again. -/
def place (written : List UInt8) (size : Nat) : List Indexed → List Placed × List UInt8
  | [] => ([], [])
  | ⟨index, string⟩ :: rest =>
    if string.isSuffixOf written then
      let (placed, bytes) := place written size rest
      (⟨index, string, size - string.length - 1⟩ :: placed, bytes)
    else
      let (placed, bytes) := place string (size + string.length + 1) rest
      (⟨index, string, size⟩ :: placed, string ++ 0 :: bytes)

end StringTable

/-- A table of strings that end at zero bytes. -/
structure StringTable where
  bytes : List UInt8
  placed : List StringTable.Placed
deriving DecidableEq

namespace StringTable

/-- The table of the strings, which starts with a zero byte. -/
def ofStrings (strings : List (List UInt8)) : StringTable :=
  let (placed, bytes) := place [] 1 (placingOrder (indexed strings))
  { bytes := 0 :: bytes, placed }

/-- The place of the string with the given index. Empty strings are at the zero byte in front. -/
def offset (table : StringTable) (index : Nat) : Nat :=
  match table.placed.find? (·.index = index) with
  | none => 0
  | some placed => placed.offset

end StringTable

end SymbolFootprint
