import SymbolFootprint.FileTree
import SymbolFootprint.Listing.Nm
import SymbolFootprint.Listing.Readelf
import SymbolFootprint.Object.Recognition
import SymbolFootprint.Pattern
import SymbolFootprint.Run

/-!
Ways to get at the symbols of a file, and the choice of the first one that works.

`select` asks one backend after the other. It stops at the first success and keeps what the failed
ones said (`Selection`).
-/

namespace SymbolFootprint

structure Failure where
  backend : String
  reason : String
deriving DecidableEq

namespace Failure

def message (failure : Failure) : String :=
  s!"backend '{failure.backend}' unavailable: {failure.reason}"

end Failure

structure Found where
  backend : String
  records : List SymbolRecord
deriving DecidableEq

/-- What came of asking backends: the failures in order, and the success after them, if any. -/
structure Selection where
  failures : List Failure
  found : Option Found
deriving DecidableEq

namespace Selection

def asked (selection : Selection) : Nat :=
  selection.failures.length + if selection.found.isSome then 1 else 0

def records (selection : Selection) : List SymbolRecord :=
  selection.found.elim [] Found.records

end Selection

/-- Asks backends in order, up to the first one that gives records. -/
def select {α : Type} (ask : α → Except Failure Found) : List α → Selection
  | [] => ⟨[], none⟩
  | backend :: rest =>
    match ask backend with
    | .ok found => ⟨[], some found⟩
    | .error failure =>
      let later := select ask rest
      { later with failures := failure :: later.failures }

/-- Where files are analyzed. -/
structure Machine where
  files : FileTree
  /-- The directory in which programs are found by name. -/
  programs : Location
  arithmetic : Arithmetic := .checked
  reader : Foreign.Reader := .none
  patterns : Pattern.Engine := .standard

inductive ToolFault where
  | notStarted (program : String) (fault : OsFault)
  | timedOut (program : String) (milliseconds : Nat)
  | failed (program : String) (ending : Ending) (errors : String)
deriving DecidableEq

namespace ToolFault

def message : ToolFault → String
  | .notStarted program fault => s!"failed to run '{program}': {fault.message}"
  | .timedOut program milliseconds => s!"'{program}' timed out after {milliseconds}ms"
  | .failed program ending errors => s!"'{program}' exited with {ending.text}: {errors}"

end ToolFault

namespace Machine

/-- The program of the given name, with its location. A name with a slash is a path; any other name
is looked for among the programs. -/
def program (machine : Machine) (name : String) : Except OsFault (Location × Tool) :=
  if name.toList.contains '\x00' then .error .zeroInProgram
  else
    let files :=
      if name.toList.contains '/' then machine.files
      else { machine.files with current := machine.programs }
    match files.resolve ⟨name⟩ with
    | .error fault => .error fault
    | .ok (location, .program tool) =>
      if tool.executable then .ok (location, tool) else .error .denied
    | .ok _ => .error .denied

/-- The output of a program that ends with success in the given time. No program ends at once. -/
def run (machine : Machine) (name : String) (arguments : List String) (milliseconds : Nat) :
    Except ToolFault (List Char) :=
  match machine.program name with
  | .error fault => .error (.notStarted name fault)
  | .ok (_, tool) =>
    let answer := tool.answer arguments
    if answer.ending = .never ∨ milliseconds = 0 then .error (.timedOut name milliseconds)
    else if answer.ending = .exit 0 then .ok answer.outputText
    else .error (.failed name answer.ending (String.ofList answer.errorText))

end Machine

inductive Backend where
  /-- Reads the file itself. -/
  | structured
  | readelf
  | nm
deriving DecidableEq

namespace Backend

def name : Backend → String
  | .structured => "structured"
  | .readelf => "readelf"
  | .nm => "nm"

def standardOrder : List Backend := [.structured, .readelf, .nm]

def ofName? (name : String) : Option Backend :=
  standardOrder.find? (·.name = name)

/-- The programs to run, and the time that each may take. -/
structure Settings where
  readelfProgram : String := "readelf"
  nmProgram : String := "nm"
  timeout : Nat := 30000

/-- A program to run, what it is told, and how its output is read. -/
structure Command where
  program : String
  arguments : List String
  parse : List Char → List SymbolRecord

/-- A run of a program: where it was found, and what it was told. -/
structure Call where
  location : Location
  arguments : List String
deriving DecidableEq

/-- A file to ask for its symbols, and the reader for foreign formats. -/
structure Target where
  path : Path
  content : ByteArray
  reader : Foreign.Reader

/-- What the file shows by itself. -/
def Target.contents (target : Target) : Except RecognitionFault Contents :=
  Contents.ofFile target.reader target.content

/-- The records of a file, as read from the file itself. -/
def read (target : Target) : Except String (List SymbolRecord) :=
  (target.contents.map Contents.records).mapError fun fault =>
    s!"unrecognized binary: {fault.message}"

section Reading

variable {path : Path} {content : ByteArray} {reader : Foreign.Reader}

theorem read_of_ok {contents : Contents}
    (recognized : Contents.ofFile reader content = .ok contents) :
    read ⟨path, content, reader⟩ = .ok contents.records := by
  rw [read, Target.contents, recognized]
  rfl

theorem read_of_error {fault : RecognitionFault}
    (unrecognized : Contents.ofFile reader content = .error fault) :
    read ⟨path, content, reader⟩ = .error s!"unrecognized binary: {fault.message}" := by
  rw [read, Target.contents, unrecognized]
  rfl

end Reading

section Asking

variable (machine : Machine) (settings : Settings) (target : Target)

def command? : Backend → Option Command
  | .structured => none
  | .readelf => some ⟨settings.readelfProgram, ["-s", "-W", target.path.text], Readelf.parse⟩
  | .nm =>
    some ⟨settings.nmProgram, ["--print-size", "--size-sort", "--radix=d", target.path.text],
      Nm.parse⟩

/-- The records that a backend gives, or the reason why it gives none. -/
def records (backend : Backend) : Except String (List SymbolRecord) :=
  match backend.command? settings target with
  | none => read target
  | some command =>
    ((machine.run command.program command.arguments settings.timeout).map command.parse).mapError
      ToolFault.message

@[simp]
theorem records_structured : structured.records machine settings target = read target :=
  rfl

def ask (backend : Backend) : Except Failure Found :=
  match backend.records machine settings target with
  | .error reason => .error ⟨backend.name, reason⟩
  | .ok records => .ok ⟨backend.name, records⟩

def call? (backend : Backend) : Option Call :=
  match backend.command? settings target with
  | none => none
  | some command =>
    match machine.program command.program with
    | .error _ => none
    | .ok (location, _) => some ⟨location, command.arguments⟩

end Asking

end Backend

end SymbolFootprint
