import SymbolFootprint.Path
import SymbolFootprint.Tool

/-!
A tree of files as programs find it: what a path leads to, and why it may lead nowhere.

A tree lists its entries by location, the names from the root on. Links stand in the tree as entries
of their own; what lies behind a link is found only by following it (`FileTree.resolve`).
-/

namespace SymbolFootprint

inductive OsFault where
  | notFound
  | denied
  | notDirectory
  | isDirectory
  | linkLoop
  | zeroInPath
  | zeroInProgram
  | other (text : String)
deriving DecidableEq

namespace OsFault

def message : OsFault → String
  | .notFound => "No such file or directory (os error 2)"
  | .denied => "Permission denied (os error 13)"
  | .notDirectory => "Not a directory (os error 20)"
  | .isDirectory => "Is a directory (os error 21)"
  | .linkLoop => "Too many levels of symbolic links (os error 40)"
  | .zeroInPath => "file name contained an unexpected NUL byte"
  | .zeroInProgram => "nul byte found in provided data"
  | .other text => text

end OsFault

/-- The names that lead from the root to an entry. -/
abbrev Location := List String

inductive Entry where
  | file (content : ByteArray)
  /-- A regular file that cannot be opened. -/
  | locked (fault : OsFault)
  | program (tool : Tool)
  | directory
  | link (target : String)

structure FileTree where
  entries : List (Location × Entry)
  /-- Where paths without a leading slash start. -/
  current : Location

namespace FileTree

/-- The entry at a location; the root is a directory. -/
def entry? (tree : FileTree) (location : Location) : Option Entry :=
  if location.isEmpty then some .directory else tree.entries.lookup location

/-- What a path leads to: an entry, or a place in a directory where there is none. -/
structure Arrival where
  location : Location
  entry? : Option Entry

def pieces (path : String) : List String :=
  (Text.split '/' path.toList).map String.ofList

def start (base : Location) : List String → Location
  | "" :: _ => []
  | _ => base

/-- Walks the pieces of a path from a directory. At a link the walk goes on as `follow` says, from
the directory of the link with the pieces of its target in front. -/
def walk (tree : FileTree) (follow : Location → List String → Except OsFault Arrival)
    (at_ : Location) : List String → Except OsFault Arrival
  | [] => .ok ⟨at_, some .directory⟩
  | piece :: rest =>
    if piece = "" ∨ piece = "." then walk tree follow at_ rest
    else if piece = ".." then walk tree follow at_.dropLast rest
    else
      match tree.entry? (at_ ++ [piece]) with
      | none => if rest.isEmpty then .ok ⟨at_ ++ [piece], none⟩ else .error .notFound
      | some (.link target) => follow (start at_ (pieces target)) (pieces target ++ rest)
      | some .directory => walk tree follow (at_ ++ [piece]) rest
      | some entry =>
        if rest.isEmpty then .ok ⟨at_ ++ [piece], some entry⟩ else .error .notDirectory

/-- Walks the pieces of a path over at most the given number of links. -/
def walkLinks (tree : FileTree) : Nat → Location → List String → Except OsFault Arrival
  | 0 => walk tree fun _ _ => .error .linkLoop
  | links + 1 => walk tree (walkLinks tree links)

def linkLimit : Nat := 40

def arrive (tree : FileTree) (path : Path) : Except OsFault Arrival :=
  if path.text = "" then .error .notFound
  else if path.text.toList.contains '\x00' then .error .zeroInPath
  else
    let pieces := pieces path.text
    walkLinks tree linkLimit (start tree.current pieces) pieces

/-- The entry that a path leads to, with its location. -/
def resolve (tree : FileTree) (path : Path) : Except OsFault (Location × Entry) :=
  match tree.arrive path with
  | .error fault => .error fault
  | .ok ⟨_, none⟩ => .error .notFound
  | .ok ⟨location, some entry⟩ => .ok (location, entry)

def isFile (tree : FileTree) (path : Path) : Bool :=
  match tree.resolve path with
  | .ok (_, .file _) | .ok (_, .locked _) | .ok (_, .program _) => true
  | _ => false

def read (tree : FileTree) (path : Path) : Except OsFault ByteArray :=
  match tree.resolve path with
  | .error fault => .error fault
  | .ok (_, .file content) => .ok content
  | .ok (_, .locked fault) => .error fault
  | .ok (_, .program tool) => .ok tool.content
  | .ok (_, .directory) => .error .isDirectory
  | .ok (_, .link _) => .error .notFound

/-- The tree with an entry at a location, in place of what was there. -/
def put (tree : FileTree) (location : Location) (entry : Entry) : FileTree :=
  { tree with
    entries := tree.entries.filter (fun other => other.1 ≠ location) ++ [(location, entry)] }

/-- The tree with a directory at a location and at all locations on the way. -/
def putDirectories (tree : FileTree) (location : Location) : FileTree :=
  (List.range location.length).foldl
    (fun tree count =>
      let place := location.take (count + 1)
      match tree.entry? place with
      | none => tree.put place .directory
      | some _ => tree)
    tree

/-- The tree with a file at a path. A path that ends in a slash names no file. -/
def write (tree : FileTree) (path : Path) (content : ByteArray) : Except OsFault FileTree :=
  match tree.arrive path with
  | .error fault => .error fault
  | .ok ⟨_, some .directory⟩ => .error .isDirectory
  | .ok ⟨_, some (.locked fault)⟩ => .error fault
  | .ok ⟨location, _⟩ => .ok (tree.put location (.file content))

/-- The names from a directory to an entry below it. -/
def below? (directory location : Location) : Option Location :=
  if directory.isPrefixOf location ∧ directory.length < location.length then
    some (location.drop directory.length)
  else none

/-- The regular files below a directory, by their names from there on. -/
def filesBelow (tree : FileTree) (directory : Location) : List Location :=
  tree.entries.filterMap fun (location, entry) =>
    match entry with
    | .file _ | .locked _ | .program _ => below? directory location
    | _ => none

end FileTree

end SymbolFootprint
