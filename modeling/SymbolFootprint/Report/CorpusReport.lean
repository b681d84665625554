import SymbolFootprint.Report.FileReport

/-!
The report on many files. All totals are read off the reports on the single files.
-/

namespace SymbolFootprint

/-- A file that could not be analyzed, with the reason. -/
structure SkippedFile where
  path : Path
  reason : String
deriving DecidableEq

structure CorpusReport where
  files : List FileReport
  skipped : List SkippedFile
deriving DecidableEq

namespace CorpusReport

def ofFiles (files : List FileReport) : CorpusReport :=
  ⟨files, []⟩

/-- The tables in one; sizes under a common key are added. -/
def merged (tables : List SizeTable) : SizeTable :=
  tables.foldl SizeTable.merge .empty

def namespaces (corpus : CorpusReport) : SizeTable :=
  merged (corpus.files.map FileReport.namespaces)

def types (corpus : CorpusReport) : SizeTable :=
  merged (corpus.files.map FileReport.types)

/-- The `count` largest namespaces. -/
def topNamespaces (corpus : CorpusReport) (count : Nat) : List SizeRow :=
  corpus.namespaces.ranked.take count

/-- The `count` largest types. -/
def topTypes (corpus : CorpusReport) (count : Nat) : List SizeRow :=
  corpus.types.ranked.take count

/-- Larger files come first, and files of equal size by path. -/
def filesBySize (corpus : CorpusReport) : List FileReport :=
  corpus.files.mergeSort fun a b =>
    b.fileSize < a.fileSize || (a.fileSize = b.fileSize && a.path.le b.path)

def assemblySizes (corpus : CorpusReport) : List SizeRow :=
  (SizeTable.collect (corpus.files.map fun report => (report.assembly, report.fileSize))).ranked

def totalSymbolBytes (corpus : CorpusReport) : Size :=
  corpus.types.total

def totalFileBytes (corpus : CorpusReport) : Size :=
  (corpus.files.map FileReport.fileSize).sum

end CorpusReport

end SymbolFootprint
