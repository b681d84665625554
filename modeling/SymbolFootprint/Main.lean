import SymbolFootprint.CommandLine.FixtureFile
import SymbolFootprint.CommandLine.SizeReport

/-!
The programs on a real machine.

The files that the command line names are read into a `FileTree`, and the programs work on the tree.
No tools are started: their backends find no program.
-/

namespace SymbolFootprint.Machine

/-- How many directories a path may lead through. -/
def depthLimit : Nat := 2048

def locationOf (path : String) : Location :=
  (FileTree.pieces path).filter fun piece => piece ≠ "" && piece ≠ "."

/-- The reason why a file cannot be opened. -/
def faultOf : IO.Error → OsFault
  | .permissionDenied .. => .denied
  | .noFileOrDirectory .. => .notFound
  | .otherError code details => .other s!"{details} (os error {code})"
  | error => .other error.toString

/-- The tree with what is at a path, put at a location. Links below the path are left out. Files that
cannot be opened are kept with the reason, and directories that cannot be read are empty. -/
def load : Nat → FileTree → Location → String → IO FileTree
  | 0, tree, _, _ => pure tree
  | depth + 1, tree, location, path => do
    let info ← IO.FS.realPath path >>= (·.metadata)
    match info.type with
    | .file => do
      let entry ←
        try pure (.file (← IO.FS.readBinFile path))
        catch error => pure (.locked (faultOf error))
      pure (tree.put location entry)
    | .dir => do
      let mut tree := tree.putDirectories location
      let root ← IO.FS.realPath path
      let inside ← try root.readDir catch _ => pure #[]
      for entry in inside do
        let inner ← entry.path.symlinkMetadata
        match inner.type with
        | .symlink => pure ()
        | _ =>
          let below := location ++ [entry.fileName]
          tree ← try load depth tree below entry.path.toString catch _ => pure tree
      pure tree
    | _ => pure tree

/-- The tree with what a word of the command line names, where it names something, down to a depth.
-/
def loadWord (depth : Nat) (tree : FileTree) (word : String) : IO FileTree := do
  try
    let real := locationOf (← IO.FS.realPath word).toString
    let named := FileTree.start tree.current (FileTree.pieces word) ++ locationOf word
    let tree ← load depth (tree.putDirectories real.dropLast) real word
    if named = real ∨ ".." ∈ named then pure tree
    else
      let target := "/" ++ Rules.joinedBy '/' real
      pure ((tree.putDirectories named.dropLast).put named (.link target))
  catch _ => pure tree

/-- The machine with what the words name, down to a depth, and without programs. -/
def ofWords (depth : Nat) (words : List String) : IO Machine := do
  let current := locationOf (← IO.FS.realPath ".").toString
  let bare : FileTree := ⟨[], current⟩
  let files ← words.foldlM (loadWord depth) (bare.putDirectories current)
  pure { files, programs := [] }

end SymbolFootprint.Machine

namespace SymbolFootprint.CommandLine

/-- Writes what a program leaves behind, and gives its code. -/
def Outcome.finish (outcome : Outcome) : IO UInt32 := do
  IO.print outcome.output
  IO.eprint outcome.errors
  pure (UInt32.ofNat outcome.code)

def SizeReport.start (words : List String) : IO UInt32 := do
  (SizeReport.execute (← Machine.ofWords Machine.depthLimit words) words).finish

def FixtureFile.directoryOf (path : String) : String :=
  match (FileTree.pieces path).dropLast with
  | [] => "."
  | [""] => "/"
  | pieces => Rules.joinedBy '/' pieces

/-- Writes a fixture, as the tree has it after the program. -/
def FixtureFile.start (words : List String) : IO UInt32 := do
  match FixtureFile.ofWords words with
  | .error interruption => (FixtureFile.answer interruption).finish
  | .ok request => do
    let place := FixtureFile.directoryOf request.output
    let machine ← Machine.ofWords 1 [place, request.output]
    let (files, outcome) := request.run machine.files
    match files.read ⟨request.output⟩ with
    | .ok content => if outcome.code = 0 then IO.FS.writeBinFile request.output content
    | .error _ => pure ()
    outcome.finish

end SymbolFootprint.CommandLine

/-- The name under which the program is started tells which one it is. -/
def main (words : List String) : IO UInt32 := do
  let path ← IO.appPath
  if path.fileStem = some "symsize-fixture" then SymbolFootprint.CommandLine.FixtureFile.start words
  else SymbolFootprint.CommandLine.SizeReport.start words
