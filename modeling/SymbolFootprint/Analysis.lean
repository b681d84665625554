import SymbolFootprint.Report.CorpusReport
import SymbolFootprint.Text.Quoted

/-!
The analysis of files: each file gives a report or the reason why it gives none.
-/

namespace SymbolFootprint

structure Analysis where
  /-- The backends in the order in which they are asked. -/
  order : List Backend := Backend.standardOrder
  backends : Backend.Settings := {}
  demangler : Demangler := .roots
  rules : Rules := .standard

inductive AnalysisFault where
  | unreadable (path : Path) (reason : String)
  | noInput
deriving DecidableEq

namespace AnalysisFault

def message : AnalysisFault → String
  | .unreadable path reason => s!"cannot analyze {path.text}: {reason}"
  | .noInput => "no input files found"

def skipped : AnalysisFault → SkippedFile
  | .unreadable path reason => ⟨path, reason⟩
  | .noInput => ⟨⟨""⟩, noInput.message⟩

/-- The fault of a file that could not be read. -/
def unopened (path : Path) (fault : OsFault) : AnalysisFault :=
  let quoted := String.ofList (Text.Quoted.quote path.text.toList)
  .unreadable path s!"Failed to read file {quoted}: {fault.message}"

/-- The fault of a file that no backend and no format reader could make sense of. -/
def unrecognized (path : Path) (failures : List Failure) : AnalysisFault :=
  let messages := String.ofList (Text.join "; ".toList (failures.map (·.message.toList)))
  .unreadable path s!"not a recognized binary ({messages})"

end AnalysisFault

namespace Analysis

/-- What comes of asking the backends for the symbols of a file. -/
def select (analysis : Analysis) (machine : Machine) (target : Backend.Target) : Selection :=
  SymbolFootprint.select (Backend.ask machine analysis.backends target) analysis.order

/-- What is made of a file after asking for its symbols. Without symbols there is a report as long as
the format of the file is recognized. -/
def conclude (analysis : Analysis) (arithmetic : Arithmetic) (target : Backend.Target)
    (selection : Selection) : Run (Except AnalysisFault FileReport) :=
  if selection.found.isNone ∧ ¬target.contents.isOk then
    .done (.error (.unrecognized target.path selection.failures))
  else
    match FileReport.aggregate arithmetic analysis.demangler analysis.rules target selection with
    | .overflowed => .overflowed
    | .done report => .done (.ok report)

def analyzeContent (analysis : Analysis) (machine : Machine) (target : Backend.Target) :
    Run (Except AnalysisFault FileReport) :=
  analysis.conclude machine.arithmetic target (analysis.select machine target)

def analyzeFile (analysis : Analysis) (machine : Machine) (path : Path) :
    Run (Except AnalysisFault FileReport) :=
  match machine.files.read path with
  | .error fault => .done (.error (.unopened path fault))
  | .ok content => analysis.analyzeContent machine ⟨path, content, machine.reader⟩

/-- The programs that are started for a file, in order. -/
def calls (analysis : Analysis) (machine : Machine) (path : Path) : List Backend.Call :=
  match machine.files.read path with
  | .error _ => []
  | .ok content =>
    let target := ⟨path, content, machine.reader⟩
    (analysis.order.take (analysis.select machine target).asked).filterMap
      (·.call? machine analysis.backends target)

/-- The report on files of which each one came to a report or a fault. -/
def corpus (outcomes : List (Except AnalysisFault FileReport)) : CorpusReport where
  files := outcomes.filterMap (·.toOption)
  skipped := outcomes.filterMap fun
    | .ok _ => none
    | .error fault => some fault.skipped

/-- The report on many files. Files without a report are listed with the reason. -/
def analyze (analysis : Analysis) (machine : Machine) (paths : List Path) :
    Run (Except AnalysisFault CorpusReport) :=
  if paths.isEmpty then .done (.error .noInput)
  else
    match Run.all (paths.map (analysis.analyzeFile machine)) with
    | .overflowed => .overflowed
    | .done outcomes => .done (.ok (corpus outcomes))

end Analysis

end SymbolFootprint
