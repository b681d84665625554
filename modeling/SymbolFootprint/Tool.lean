import SymbolFootprint.Text.Blank
import SymbolFootprint.Text.Utf8

/-!
Programs that list symbols, known by what they write and how they end when they are told their
arguments.
-/

namespace SymbolFootprint

/-- How a program ends. -/
inductive Ending where
  | exit (code : Nat)
  | signal (number : Nat)
  | never
deriving DecidableEq

namespace Ending

def signalNames : List String :=
  ["SIGHUP", "SIGINT", "SIGQUIT", "SIGILL", "SIGTRAP", "SIGABRT", "SIGBUS", "SIGFPE", "SIGKILL",
    "SIGUSR1", "SIGSEGV", "SIGUSR2", "SIGPIPE", "SIGALRM", "SIGTERM", "SIGSTKFLT", "SIGCHLD",
    "SIGCONT", "SIGSTOP", "SIGTSTP", "SIGTTIN", "SIGTTOU", "SIGURG", "SIGXCPU", "SIGXFSZ",
    "SIGVTALRM", "SIGPROF", "SIGWINCH", "SIGIO", "SIGPWR", "SIGSYS"]

def text : Ending → String
  | .exit code => s!"exit status: {code}"
  | .signal number =>
    match number with
    | 0 => "signal: 0"
    | before + 1 =>
      match signalNames[before]? with
      | none => s!"signal: {number}"
      | some name => s!"signal: {number} ({name})"
  | .never => "running"

end Ending

/-- What a run of a program leaves behind. -/
structure Answer where
  output : List UInt8 := []
  errors : List UInt8 := []
  ending : Ending := .exit 0
deriving DecidableEq

namespace Answer

def outputText (answer : Answer) : List Char :=
  Utf8.decodeLossy answer.output

/-- What the program writes about errors, without the blanks around it. -/
def errorText (answer : Answer) : List Char :=
  Text.trim (Utf8.decodeLossy answer.errors)

end Answer

structure Tool where
  executable : Bool
  /-- The file of the program itself. -/
  content : ByteArray
  /-- What the program answers to its arguments. -/
  answer : List String → Answer

end SymbolFootprint
