import SymbolFootprint.Text.Blank
import SymbolFootprint.Text.CaseFold
import SymbolFootprint.Text.Category
import SymbolFootprint.Text.Script

/-!
Sets of characters, as patterns build them: from ranges and properties, by set operations, and by
taking no notice of case.
-/

namespace SymbolFootprint

inductive CharProperty where
  | category (kind : Text.Category)
  | unassigned
  | blank
  | alphabetic
  | word
  /-- The characters of the script with the name. -/
  | script (name : String)
deriving DecidableEq

namespace CharProperty

def holds : CharProperty → Char → Bool
  | .category kind, c => kind.table.contains c.toNat
  | .unassigned, c => (Text.Category.of? c).isNone
  | .blank, c => Text.isBlank c
  | .alphabetic, c => Text.isAlphabetic c
  | .word, c => Text.isWordChar c
  | .script name, c => (Text.Script.find? name).any (·.contains c)

/-- About how many ranges of code points have the property. -/
def size : CharProperty → Nat
  | .category kind => kind.table.size
  | .unassigned => 700
  | .blank => Text.blankRanges.length
  | .alphabetic => 730
  | .word => 770
  | .script name => (Text.Script.find? name).elim 0 fun script => script.blocks.length

end CharProperty

inductive SetOperation where
  | union
  | intersection
  | difference
  | symmetricDifference
deriving DecidableEq

namespace SetOperation

/-- Is an element in the result, if it is in the two sets as told? -/
def apply : SetOperation → Bool → Bool → Bool
  | .union, a, b => a || b
  | .intersection, a, b => a && b
  | .difference, a, b => a && !b
  | .symmetricDifference, a, b => a != b

end SetOperation

inductive CharSet where
  | none
  /-- All characters from the first to the last. -/
  | range (first last : Char)
  | property (kind : CharProperty)
  | combine (operation : SetOperation) (a b : CharSet)
  | complement (set : CharSet)
  /-- The characters that differ in case only from one in the set. -/
  | caseless (set : CharSet)
  /-- The same for the letters from A to Z alone. -/
  | asciiCaseless (set : CharSet)
deriving DecidableEq

namespace CharSet

/-- The letter of the other case, for the letters from A to Z. -/
def otherCase (c : Char) : Char :=
  if 'a' ≤ c ∧ c ≤ 'z' then Char.ofNat (c.toNat - 32)
  else if 'A' ≤ c ∧ c ≤ 'Z' then Char.ofNat (c.toNat + 32)
  else c

def contains : CharSet → Char → Bool
  | .none, _ => false
  | .range first last, c => first ≤ c && c ≤ last
  | .property kind, c => kind.holds c
  | .combine operation a b, c => operation.apply (a.contains c) (b.contains c)
  | .complement set, c => !set.contains c
  | .caseless set, c =>
    set.contains c || (Text.CaseFold.variants c.toNat).any fun point =>
      set.contains (Char.ofNat point)
  | .asciiCaseless set, c => set.contains c || set.contains (otherCase c)

def single (c : Char) : CharSet :=
  .range c c

def all : CharSet :=
  .complement .none

def union (a b : CharSet) : CharSet :=
  .combine .union a b

def unionAll (sets : List CharSet) : CharSet :=
  sets.foldr union .none

def ranges (ranges : List (Char × Char)) : CharSet :=
  unionAll (ranges.map fun range => .range range.1 range.2)

/-- About how many steps a machine needs to tell the set's characters from others. -/
def size : CharSet → Nat
  | .none => 1
  | .range first last => if last.toNat < 0x80 then 1 else if first = last then last.utf8Size else 3
  | .property kind => 2 * kind.size
  | .combine _ a b => a.size + b.size
  | .complement set => set.size + 9
  | .caseless set => 2 * set.size
  | .asciiCaseless set => 2 * set.size

end CharSet

end SymbolFootprint
