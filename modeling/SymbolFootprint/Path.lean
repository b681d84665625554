import SymbolFootprint.Text.Affix
import SymbolFootprint.Text.Split

/-!
Paths of files: their components, their order, and the names read off them.

Two texts are the same path if they have the same components; `lib//a` and `lib/./a` are one path,
`a` and `./a` are two.
-/

namespace SymbolFootprint

/-- A component of a path. The empty component and a dot that is not at the start are none. -/
inductive PathPart where
  | root
  | here
  | up
  | name (text : String)
deriving DecidableEq

namespace PathPart

def rank : PathPart → Nat
  | .root => 0
  | .here => 1
  | .up => 2
  | .name _ => 3

/-- The order of components; names are in the order of their characters. -/
def before : PathPart → PathPart → Bool
  | .name a, .name b => a < b
  | a, b => a.rank < b.rank

end PathPart

structure Path where
  text : String
deriving DecidableEq, Inhabited

namespace Path

/-- The component that a piece between slashes stands for, away from the start. -/
def part? : List Char → Option PathPart
  | [] => none
  | ['.'] => none
  | ['.', '.'] => some .up
  | piece => some (.name (String.ofList piece))

/-- The component that only the start of a path can have. -/
def startPart? : List (List Char) → Option PathPart
  | [] :: _ :: _ => some .root
  | ['.'] :: _ => some .here
  | _ => none

def parts (path : Path) : List PathPart :=
  let pieces := Text.split '/' path.text.toList
  (startPart? pieces).toList ++ pieces.filterMap part?

/-- The order of paths, component by component; the beginning of a path comes before the path. -/
def partsLe : List PathPart → List PathPart → Bool
  | [], _ => true
  | _ :: _, [] => false
  | a :: as, b :: bs => if a = b then partsLe as bs else a.before b

def le (a b : Path) : Bool :=
  partsLe a.parts b.parts

def same (a b : Path) : Bool :=
  a.parts = b.parts

def fileName? (path : Path) : Option String :=
  match path.parts.getLast? with
  | some (.name text) => some text
  | _ => none

/-- What follows the last dot of the file name, unless the name starts with that dot. -/
def extension? (path : Path) : Option String :=
  path.fileName?.bind fun name =>
    let reversed := name.toList.reverse
    match reversed.dropWhile (· ≠ '.') with
    | '.' :: _ :: _ => some (String.ofList (reversed.takeWhile (· ≠ '.')).reverse)
    | _ => none

def child (directory : Path) (name : String) : Path :=
  match directory.text.toList.getLast? with
  | none => ⟨name⟩
  | some '/' => ⟨directory.text ++ name⟩
  | some _ => ⟨directory.text ++ "/" ++ name⟩

/-- What the file names of compiled assemblies start with. -/
def assemblyStart : List Char := "libaot-".toList

def assemblyOfName (name : List Char) : List Char :=
  match Text.afterStart? assemblyStart name with
  | none => name
  | some rest =>
    ((Text.beforeEnd? ".dll.so".toList rest).or (Text.beforeEnd? ".so".toList rest)).getD rest

/-- The name of the assembly that a file was compiled from. -/
def assemblyName (path : Path) : String :=
  match path.fileName? with
  | none => ""
  | some name => String.ofList (assemblyOfName name.toList)

end Path

end SymbolFootprint
