import SymbolFootprint.CommandLine.Words
import SymbolFootprint.FileTree
import SymbolFootprint.Fixture.Generated
import SymbolFootprint.Text.Quoted

/-!
The program that writes an object file with generated classes.
-/

namespace SymbolFootprint.CommandLine

inductive FixtureOption where
  | classes
  | help
  | version
deriving DecidableEq

structure FixtureFile where
  output : String
  /-- The number of generated classes. -/
  classes : Nat
deriving DecidableEq

namespace FixtureFile

def spellings : List (Spelling FixtureOption) :=
  [{ option := .classes, name := "classes", letter := some 'c', takesValue := true },
    { option := .help, name := "help", letter := some 'h' },
    { option := .version, name := "version", letter := some 'V' }]

structure Draft where
  output : Option String := none
  classes : Nat := 100

/-- Takes up an option or an argument. There is one argument only. -/
def takeUp (draft : Draft) : Meaning FixtureOption → Except Interruption Draft
  | .option .classes value =>
    match value.bind number? with
    | some classes => .ok { draft with classes }
    | none => .error .misuse
  | .option .help _ => .error .help
  | .option .version _ => .error .version
  | .argument text =>
    match draft.output with
    | none => .ok { draft with output := some text }
    | some _ => .error .misuse

def ofWords (words : List String) : Except Interruption FixtureFile :=
  match (Reading.ofCommandLine spellings words).collect takeUp {} with
  | .error interruption => .error interruption
  | .ok ⟨none, _⟩ => .error .misuse
  | .ok ⟨some output, classes⟩ => .ok ⟨output, classes⟩

def run (request : FixtureFile) (files : FileTree) : FileTree × Outcome :=
  let fixture := Fixture.generatedClasses request.classes
  match fixture.build with
  | .error _ => (files, { code := 1, errors := "Error: Failed to write fixture object\n" })
  | .ok content =>
    match files.write ⟨request.output⟩ content with
    | .error fault =>
      let path := String.ofList (Text.Quoted.quote request.output.toList)
      (files, { code := 1, errors := s!"Error: Failed to write fixture {path}: {fault.message}\n" })
    | .ok files =>
      let count := fixture.symbolCount
      let total := fixture.totalSize
      let path := request.output
      (files,
        { code := 0
          output := s!"Wrote {count} symbols ({total} bytes of code and data) to {path}\n" })

def usage : String := "Usage: symsize-fixture [OPTIONS] <OUTPUT>\n"

def versionText : String := "symsize-fixture 0.1.0\n"

/-- What is answered to a command line that is not carried out. -/
def answer : Interruption → Outcome
  | .misuse => { code := 2, errors := usage }
  | .help => { code := 0, output := usage }
  | .version => { code := 0, output := versionText }

def execute (files : FileTree) (words : List String) : FileTree × Outcome :=
  match ofWords words with
  | .ok request => request.run files
  | .error interruption => (files, answer interruption)

end FixtureFile

end SymbolFootprint.CommandLine
