/-!
Sets of code points, as tables of ranges.
-/

namespace SymbolFootprint.Text

structure CodeTable where
  /-- Closed ranges, all of whose points belong to the set. -/
  blocks : List (Nat × Nat)
  /-- Closed ranges of which every second point belongs to the set, the first and the last among
  them. -/
  alternating : List (Nat × Nat) := []

namespace CodeTable

def contains (table : CodeTable) (point : Nat) : Bool :=
  table.blocks.any (fun range => range.1 ≤ point && point ≤ range.2) ||
    table.alternating.any fun range =>
      range.1 ≤ point && point ≤ range.2 && (point - range.1) % 2 = 0

def size (table : CodeTable) : Nat :=
  table.blocks.length + table.alternating.length

end CodeTable

end SymbolFootprint.Text
