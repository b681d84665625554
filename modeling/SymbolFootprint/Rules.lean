import SymbolFootprint.Attribution
import SymbolFootprint.Text.Split

/-!
The rules that a demangler follows: reserved prefixes, known root namespaces and the delimiter, with
the decisions that do not depend on the way an identifier is taken apart.
-/

namespace SymbolFootprint

/-- Identifiers that start with the prefix go into the bucket. -/
structure ReservedPrefix where
  start : String
  bucket : String
deriving DecidableEq

structure Rules where
  /-- Of several prefixes that fit an identifier the first counts. -/
  reserved : List ReservedPrefix
  /-- The first segments of identifiers that can be taken apart by roots, in order. -/
  roots : List String
  delimiter : Char
deriving DecidableEq

namespace Rules

def runtimeBucket : String := "[Runtime]"

def thunksBucket : String := "[Thunks]"

def globalBucket : String := "[Global]"

def unknownBucket : String := "[Unknown]"

/-- No reserved prefix, no root, and the underscore. -/
def empty : Rules :=
  ⟨[], [], '_'⟩

/-- The roots with one more, in order and without repetitions. -/
def insertRoot (root : String) : List String → List String
  | [] => [root]
  | next :: rest =>
    if root < next then root :: next :: rest
    else if root = next then next :: rest
    else next :: insertRoot root rest

def withRoot (rules : Rules) (root : String) : Rules :=
  { rules with roots := insertRoot root rules.roots }

def withoutRoots (rules : Rules) : Rules :=
  { rules with roots := [] }

def withReservedPrefix (rules : Rules) (start bucket : String) : Rules :=
  { rules with reserved := rules.reserved ++ [⟨start, bucket⟩] }

def withDelimiter (rules : Rules) (delimiter : Char) : Rules :=
  { rules with delimiter }

/-- The rules for assemblies compiled ahead of time. -/
def standard : Rules :=
  { empty with
    reserved := [⟨"mono_", runtimeBucket⟩, ⟨"plt_", runtimeBucket⟩, ⟨"temp_", thunksBucket⟩]
    roots := ["Android", "Java", "MauiAotHang", "Microsoft", "System", "Xamarin"] }

def isKnownRoot (rules : Rules) (segment : String) : Bool :=
  rules.roots.contains segment

def segments (rules : Rules) (identifier : String) : List String :=
  (Text.split rules.delimiter identifier.toList).map String.ofList

def joinedBy (separator : Char) (segments : List String) : String :=
  String.ofList (Text.join [separator] (segments.map String.toList))

def joined (rules : Rules) (segments : List String) : String :=
  joinedBy rules.delimiter segments

def reservedPrefix? (rules : Rules) (identifier : String) : Option ReservedPrefix :=
  rules.reserved.find? fun entry => entry.start.toList.isPrefixOf identifier.toList

def reserved? (rules : Rules) (identifier : String) : Option Attribution :=
  (rules.reservedPrefix? identifier).map fun entry => .bucket entry.bucket identifier

/-- The attribution of an identifier with fewer than two segments. -/
def tooShort? (rules : Rules) (identifier : String) : Option Attribution :=
  if (rules.segments identifier).length < 2 then some (.bucket globalBucket identifier) else none

/-- The attribution of an identifier that no other rule covers. -/
def unmatched (identifier : String) : Attribution :=
  .bucket unknownBucket identifier

theorem mem_insertRoot {root segment : String} {roots : List String} :
    segment ∈ insertRoot root roots ↔ segment = root ∨ segment ∈ roots := by
  induction roots with
  | nil => simp [insertRoot]
  | cons next rest ih =>
    unfold insertRoot
    split
    · simp
    · split
      · next equal => simp [equal]
      · simp only [List.mem_cons, ih]
        grind

@[simp]
theorem isKnownRoot_withRoot (rules : Rules) (root segment : String) :
    (rules.withRoot root).isKnownRoot segment = (segment == root || rules.isKnownRoot segment) := by
  rw [Bool.eq_iff_iff]
  simp [isKnownRoot, withRoot, mem_insertRoot]

end Rules

end SymbolFootprint
