/-!
Values with the depth of the nesting in which they were written.
-/

namespace SymbolFootprint.Pattern

structure Nested (α : Type) where
  value : α
  depth : Nat
deriving DecidableEq

namespace Nested

def flat {α : Type} (value : α) : Nested α :=
  ⟨value, 0⟩

/-- The value one level deeper. -/
def deepen {α : Type} (nested : Nested α) : Nested α :=
  { nested with depth := nested.depth + 1 }

def deepest {α : Type} (values : List (Nested α)) : Nat :=
  values.foldl (fun depth nested => max depth nested.depth) 0

def join {α : Type} (combine : α → α → α) (unit : α) : List α → α
  | [] => unit
  | [value] => value
  | value :: next :: rest => combine value (join combine unit (next :: rest))

/-- Several values in one, which is one level deeper than the deepest of them. A single value is
left as it is. -/
def gather {α : Type} (combine : α → α → α) (unit : α) (values : List (Nested α)) : Nested α :=
  ⟨join combine unit (values.map value),
    if values.length < 2 then deepest values else deepest values + 1⟩

end Nested

end SymbolFootprint.Pattern
