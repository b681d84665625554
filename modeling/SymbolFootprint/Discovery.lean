import SymbolFootprint.FileTree
import SymbolFootprint.Pattern

/-!
Finding the files to analyze.

An argument that is a file is taken if its name ends in the extension of shared objects or fits the
pattern. An argument that is a directory stands for the files below it whose names fit. What is
found is listed in the order of paths, each path once.
-/

namespace SymbolFootprint

structure Discovery where
  pattern : Pattern
  /-- Are directories below the given ones searched too? -/
  recursive : Bool

namespace Discovery

/-- The files of compiled assemblies, in the directories and everywhere below them. -/
def standard : Except InvalidPattern Discovery :=
  (Pattern.ofText Pattern.standardText).map fun pattern => ⟨pattern, true⟩

/-- The extension of shared objects. -/
def sharedExtension : String := "so"

def fitsName (discovery : Discovery) (path : Path) : Bool :=
  path.fileName?.any discovery.pattern.fits

/-- Is a file taken that is named as an argument? -/
def accepts (discovery : Discovery) (path : Path) : Bool :=
  path.extension? = some sharedExtension || discovery.fitsName path

/-- The path of an entry below a directory, by the names that lead to it. -/
def descend (directory : Path) (names : List String) : Path :=
  names.foldl Path.child directory

/-- The files below a directory that are searched, by the names that lead to them. -/
def searched (discovery : Discovery) (tree : FileTree) (directory : Location) :
    List (List String) :=
  (tree.filesBelow directory).filter fun names => discovery.recursive || names.length = 1

def filesFor (discovery : Discovery) (tree : FileTree) (argument : Path) : List Path :=
  match tree.resolve argument with
  | .ok (_, .file _) | .ok (_, .locked _) | .ok (_, .program _) =>
    if discovery.accepts argument then [argument] else []
  | .ok (location, .directory) =>
    ((discovery.searched tree location).map (descend argument)).filter discovery.fitsName
  | _ => []

/-- The list without the paths that are the same as the one before. -/
def withoutRepetitions : List Path → List Path
  | [] => []
  | path :: rest =>
    match withoutRepetitions rest with
    | [] => [path]
    | kept :: others => if path.same kept then path :: others else path :: kept :: others

/-- The files that the arguments stand for. Of paths that are the same the first one is kept. -/
def files (discovery : Discovery) (tree : FileTree) (arguments : List Path) : List Path :=
  withoutRepetitions ((arguments.flatMap (discovery.filesFor tree)).mergeSort Path.le)

end Discovery

end SymbolFootprint
