import SymbolFootprint.Proofs.Report.Reproducibility
import SymbolFootprint.Proofs.SizeTable.Merging

/-!
Totals built in steps.

The totals over some files followed by others are the totals over each, merged key by key
(`total_append`). So it does not matter how the files are grouped on the way: in whatever batches
and in whatever nesting the totals are built, they are those of all files at once
(`Grouping.total_eq`).
-/

namespace SymbolFootprint

/-- A table of the report on a file, which has its totals in the report on many files. -/
inductive View where
  | namespaces
  | types
deriving DecidableEq

namespace View

def ofFile : View → FileReport → SizeTable
  | .namespaces => FileReport.namespaces
  | .types => FileReport.types

def total : View → CorpusReport → SizeTable
  | .namespaces => CorpusReport.namespaces
  | .types => CorpusReport.types

/-- The totals, with the rows of each table visited in some order. -/
def totalVisiting (visiting : Visiting) : View → CorpusReport → SizeTable
  | .namespaces => visiting.namespaces
  | .types => visiting.types

variable (view : View)

theorem total_eq (corpus : CorpusReport) :
    view.total corpus = .collect ((corpus.files.map view.ofFile).flatMap SizeTable.rows) := by
  cases view <;> exact CorpusReport.merged_eq_collect _

theorem totalVisiting_eq (visiting : Visiting) (corpus : CorpusReport) :
    view.totalVisiting visiting corpus = view.total corpus := by
  cases view with
  | namespaces => exact visiting.namespaces_eq corpus
  | types => exact visiting.types_eq corpus

/-- The totals over some files and others are the totals over each of them, merged. -/
theorem total_append (first second : List FileReport) :
    view.total (.ofFiles (first ++ second)) =
      (view.total (.ofFiles first)).merge (view.total (.ofFiles second)) := by
  simp only [total_eq, SizeTable.merge_collect_collect, CorpusReport.ofFiles, List.map_append,
    List.flatMap_append]

theorem find?_total {reports : List FileReport} {key : String} {size : Size} :
    (view.total (.ofFiles reports)).find? key = some size ↔
      (∃ report ∈ reports, ∃ part, (view.ofFile report).find? key = some part) ∧
      size.bytes = min (2 ^ 64 - 1)
        (reports.map fun report => (view.ofFile report).bytesUnder key).sum := by
  rw [total_eq, SizeTable.find?_collect_tables]
  simp [CorpusReport.ofFiles, Function.comp_def]

end View

/-- A way to build totals: batches of files, and totals that are merged. -/
inductive Grouping where
  | batch (reports : List FileReport)
  | joined (first second : Grouping)

namespace Grouping

def files : Grouping → List FileReport
  | .batch reports => reports
  | .joined first second => first.files ++ second.files

def total (view : View) : Grouping → SizeTable
  | .batch reports => view.total (.ofFiles reports)
  | .joined first second => (first.total view).merge (second.total view)

/-- However the files are grouped, the totals are those of all of them at once. -/
theorem total_eq (view : View) (grouping : Grouping) :
    grouping.total view = view.total (.ofFiles grouping.files) := by
  induction grouping with
  | batch reports => rfl
  | joined first second firstHypothesis secondHypothesis =>
    rw [total, firstHypothesis, secondHypothesis, files, view.total_append]

end Grouping

/-- The totals over two lists of reports are those over the one list merged key by key with those
over the other one: a key is there if some report has it, with the sum of what the reports have
under it, up to the largest count. The reports are kept as they are, nothing is skipped, and neither
the grouping of the files matters nor the order in which the rows of their tables are visited. -/
theorem CorpusReport.ofFiles_append (first second : List FileReport) :
    let corpus := ofFiles (first ++ second)
    corpus.files = first ++ second ∧
    corpus.skipped = [] ∧
    (∀ view : View,
      (∀ key, (view.total corpus).find? key =
        Option.merge (· + ·) ((view.total (ofFiles first)).find? key)
          ((view.total (ofFiles second)).find? key)) ∧
      (∀ key size, (view.total corpus).find? key = some size ↔
        (∃ report ∈ first ++ second, ∃ part, (view.ofFile report).find? key = some part) ∧
        size.bytes = min (2 ^ 64 - 1)
          ((first ++ second).map fun report => (view.ofFile report).bytesUnder key).sum) ∧
      ∀ visiting : Visiting, view.totalVisiting visiting corpus = view.total corpus) ∧
    ∀ (view : View) (grouping : Grouping),
      grouping.total view = view.total (ofFiles grouping.files) := by
  intro corpus
  refine ⟨rfl, rfl, ?_, ?_⟩
  · intro view
    refine ⟨?_, ?_, ?_⟩
    · intro key
      rw [view.total_append, SizeTable.find?_merge]
    · intro key size
      exact view.find?_total
    · intro visiting
      exact view.totalVisiting_eq visiting corpus
  · intro view grouping
    exact grouping.total_eq view

end SymbolFootprint
