import SymbolFootprint.Report.Amount
import SymbolFootprint.Report.CorpusReport
import SymbolFootprint.Text.Padding

/-!
The page that shows the report on many files, as a list of lines.
-/

namespace SymbolFootprint

/-- How much a page shows. -/
structure Page where
  topNamespaces : Nat := 20
  topTypes : Nat := 30
  sections : Bool := false

namespace Page

abbrev Line := List Char

/-- The widths of the columns for namespaces and assemblies, for types and files, and for sections.
-/
def narrowWidth : Nat := 50

def wideWidth : Nat := 60

def sectionWidth : Nat := 30

def ruleWidth : Nat := 80

def sectionLimit : Nat := 10

/-- A title between two rules, with a blank line before them. -/
def heading (title : String) : List Line :=
  let rule := List.replicate ruleWidth '='
  [[], rule, title.toList, rule]

def sizeText (width : Nat) (label : Line) (size : Size) : Line :=
  Text.padRight width label ++ " ".toList ++ Text.padLeft 14 (Amount.bytesText size) ++
    " bytes (".toList ++ Text.padLeft 12 (Amount.kilobytesText size) ++ ")".toList

/-- A label and a size, with its part of a total. -/
def partRow (width : Nat) (total : Size) (label : String) (size : Size) : Line :=
  "  ".toList ++ sizeText width label.toList size ++ " ".toList ++
    Text.padLeft 5 (Amount.percentageText size total) ++ "%".toList

/-- The table of the rows under a title; without rows there is no table. -/
def table (title : String) (row : SizeRow → Line) (rows : List SizeRow) : List Line :=
  if rows.isEmpty then [] else heading title ++ rows.map row

def summary (total : Size) : List Line :=
  [[], "Total code size (symbols): ".toList ++ Amount.bytesText total ++ " bytes (".toList ++
    Amount.kilobytesText total ++ ")".toList]

/-- The name of a file, or its whole path if the path ends in no name. -/
def fileLabel (report : FileReport) : String :=
  report.path.fileName?.getD report.path.text

def sourceText (report : FileReport) : Line :=
  match report.backend with
  | some backend => Decimal.digits report.symbolCount ++ s!" symbols via {backend}".toList
  | none => "no symbols".toList

def fileRow (report : FileReport) : Line :=
  "  ".toList ++ sizeText wideWidth (fileLabel report).toList report.fileSize ++ "  [".toList ++
    sourceText report ++ "]".toList

def sectionRow (row : SizeRow) : Line :=
  "      ".toList ++ sizeText sectionWidth row.1.toList row.2

/-- The row for a file, and the rows for its largest sections where they are shown. -/
def fileRows (page : Page) (report : FileReport) : List Line :=
  fileRow report ::
    if page.sections then (report.sections.ranked.take sectionLimit).map sectionRow else []

def unlistedRemark (corpus : CorpusReport) : List Line :=
  let count := (corpus.files.filter (·.backend.isNone)).length
  if count = 0 then []
  else
    [[], "  Could not extract symbols from ".toList ++ Decimal.digits count ++
      " file(s). Install binutils (readelf/nm) for a detailed analysis.".toList]

def files (page : Page) (corpus : CorpusReport) : List Line :=
  heading "FILE SIZE SUMMARY:" ++ corpus.filesBySize.flatMap page.fileRows ++ unlistedRemark corpus

def assemblies (corpus : CorpusReport) : List Line :=
  let rows := corpus.assemblySizes
  let total := corpus.totalFileBytes
  if rows.isEmpty then []
  else
    table "ASSEMBLY SIZES (sorted by size):" (fun row => partRow narrowWidth total row.1 row.2)
        rows ++
      [[], "  ".toList ++ sizeText narrowWidth "TOTAL".toList total]

def skippedRow (file : SkippedFile) : Line :=
  s!"  {file.path.text}: {file.reason}".toList

def skipped (corpus : CorpusReport) : List Line :=
  if corpus.skipped.isEmpty then []
  else heading "SKIPPED FILES:" ++ corpus.skipped.map skippedRow

def lines (page : Page) (corpus : CorpusReport) : List Line :=
  let total := corpus.totalSymbolBytes
  summary total ++
    table "TOP NAMESPACES BY SIZE (across all files):"
      (fun row => partRow narrowWidth total (Attribution.shownScope row.1) row.2)
      (corpus.topNamespaces page.topNamespaces) ++
    table "TOP TYPES BY SIZE (across all files):"
      (fun row => partRow wideWidth total row.1 row.2)
      (corpus.topTypes page.topTypes) ++
    page.files corpus ++ assemblies corpus ++ skipped corpus

def render (page : Page) (corpus : CorpusReport) : String :=
  String.ofList ((page.lines corpus).flatMap (· ++ ['\n']))

end Page

end SymbolFootprint
