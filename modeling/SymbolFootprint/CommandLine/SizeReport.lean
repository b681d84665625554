import SymbolFootprint.Analysis
import SymbolFootprint.CommandLine.Words
import SymbolFootprint.Discovery
import SymbolFootprint.Report.Page

/-!
The program that reports the sizes of symbols in files and directories.

It ends with code 0 if there is a report on at least one file, with 1 if no file is found or the
pattern is none, and with 2 if all files are skipped or the command line is misused. Where a checked
sum is too large there is no report at all, and the code is 101.
-/

namespace SymbolFootprint.CommandLine

inductive SizeReportOption where
  | demangler
  | root
  | noDefaultRoots
  | pattern
  | noRecursive
  | backend
  | toolTimeout
  | topNamespaces
  | topTypes
  | sections
  | parallel
  | verbose
  | help
  | version
deriving DecidableEq

structure SizeReport where
  paths : List Path := []
  demangler : Demangler := .roots
  roots : List String := []
  standardRoots : Bool := true
  pattern : String := Pattern.standardText
  recursive : Bool := true
  /-- The backends to ask; none are the standard ones. -/
  backends : List Backend := []
  /-- How many seconds each tool may take. -/
  timeout : Nat := 30
  page : Page := {}

namespace SizeReport

def spellings : List (Spelling SizeReportOption) :=
  [{ option := .demangler, name := "demangler", takesValue := true },
    { option := .root, name := "root", takesValue := true, repeatable := true },
    { option := .noDefaultRoots, name := "no-default-roots" },
    { option := .pattern, name := "pattern", takesValue := true },
    { option := .noRecursive, name := "no-recursive" },
    { option := .backend, name := "backend", takesValue := true, repeatable := true },
    { option := .toolTimeout, name := "tool-timeout", takesValue := true },
    { option := .topNamespaces, name := "top-namespaces", takesValue := true },
    { option := .topTypes, name := "top-types", takesValue := true },
    { option := .sections, name := "sections" },
    { option := .parallel, name := "parallel" },
    { option := .verbose, name := "verbose", letter := some 'v', repeatable := true },
    { option := .help, name := "help", letter := some 'h' },
    { option := .version, name := "version", letter := some 'V' }]

/-- A part of the command line that stands, or misuse. -/
def required {α : Type} (value : Option α) : Except Interruption α :=
  match value with
  | some value => .ok value
  | none => .error .misuse

def takeOption (request : SizeReport) (option : SizeReportOption) (value : String) :
    Except Interruption SizeReport :=
  match option with
  | .demangler => do
    let demangler ← required (Demangler.ofName value).toOption
    .ok { request with demangler }
  | .root => .ok { request with roots := request.roots ++ [value] }
  | .noDefaultRoots => .ok { request with standardRoots := false }
  | .pattern => .ok { request with pattern := value }
  | .noRecursive => .ok { request with recursive := false }
  | .backend => do
    let backend ← required (Backend.ofName? value)
    .ok { request with backends := request.backends ++ [backend] }
  | .toolTimeout => do
    let timeout ← required (number? value)
    .ok { request with timeout }
  | .topNamespaces => do
    let topNamespaces ← required (number? value)
    .ok { request with page := { request.page with topNamespaces } }
  | .topTypes => do
    let topTypes ← required (number? value)
    .ok { request with page := { request.page with topTypes } }
  | .sections => .ok { request with page := { request.page with sections := true } }
  | .parallel | .verbose => .ok request
  | .help => .error .help
  | .version => .error .version

/-- Takes up an option or an argument. The empty text is no path. -/
def takeUp (request : SizeReport) : Meaning SizeReportOption → Except Interruption SizeReport
  | .option option value => request.takeOption option (value.getD "")
  | .argument "" => .error .misuse
  | .argument text => .ok { request with paths := request.paths ++ [⟨text⟩] }

/-- What a command line asks for. At least one path must be given. -/
def ofWords (words : List String) : Except Interruption SizeReport := do
  let request ← (Reading.ofCommandLine spellings words).collect takeUp {}
  if request.paths.isEmpty then .error .misuse else .ok request

def rules (request : SizeReport) : Rules :=
  request.roots.foldl Rules.withRoot
    (if request.standardRoots then Rules.standard else Rules.standard.withoutRoots)

def analysis (request : SizeReport) : Analysis :=
  { order := if request.backends.isEmpty then Backend.standardOrder else request.backends
    backends := { timeout := 1000 * request.timeout }
    demangler := request.demangler
    rules := request.rules }

def announcement (count : Nat) : String :=
  s!"Found {count} file(s) to analyze\n"

def overflowText : String := "attempt to add with overflow\n"

def run (request : SizeReport) (machine : Machine) : Outcome :=
  match machine.patterns.compile request.pattern with
  | .error fault => { code := 1, errors := s!"Error: {fault.message}\n" }
  | .ok pattern =>
    let files := Discovery.files ⟨pattern, request.recursive⟩ machine.files request.paths
    match request.analysis.analyze machine files with
    | .overflowed =>
      { code := 101, output := announcement files.length, errors := overflowText }
    | .done (.error _) =>
      { code := 1, errors := s!"No files matching '{request.pattern}' found!\n" }
    | .done (.ok corpus) =>
      { code := if corpus.files.isEmpty then 2 else 0
        output := announcement files.length ++ request.page.render corpus }

def usage : String := "Usage: symsize [OPTIONS] <PATHS>...\n"

def versionText : String := "symsize 0.1.0\n"

/-- What is answered to a command line that is not carried out. -/
def answer : Interruption → Outcome
  | .misuse => { code := 2, errors := usage }
  | .help => { code := 0, output := usage }
  | .version => { code := 0, output := versionText }

def execute (machine : Machine) (words : List String) : Outcome :=
  match ofWords words with
  | .ok request => request.run machine
  | .error interruption => answer interruption

end SizeReport

end SymbolFootprint.CommandLine
