import Mathlib.Data.List.Pairwise
import SymbolFootprint.Proofs.Path.Order
import SymbolFootprint.Proofs.Report.Distribution
import SymbolFootprint.Proofs.SizeTable.Ranking
import SymbolFootprint.Report.Page

/-!
Reports do not depend on the order in which anything comes.

A table has no order of its own, so each place of a run that goes through the rows of a table may
see them in another order (`Visiting`). All figures that a page shows are the same for every order
(`Visiting.figures_eq`). The order of the files matters to nothing either, as long as no two files
agree in size and path (`Ties`), because then there is one order of files by size
(`filesBySize_of_perm`). Together the page is the same text (`render_reproducible`).
-/

namespace SymbolFootprint

namespace FileReport

/-- The order of files does not tell these reports apart. -/
def Ties (a b : FileReport) : Prop :=
  a.fileSize = b.fileSize ∧ a.path.same b.path = true
deriving Decidable

def sizeKey (report : FileReport) : ℕᵒᵈ ×ₗ List (ℕ ×ₗ String) :=
  report.fileSize.descending report.path.key

theorem ties_iff {a b : FileReport} : a.Ties b ↔ a.sizeKey = b.sizeKey := by
  rw [sizeKey, sizeKey, Size.descending_inj, Path.key_inj]
  rfl

theorem listedBefore_iff (a b : FileReport) :
    (b.fileSize < a.fileSize || (a.fileSize = b.fileSize && a.path.le b.path)) = true ↔
      a.sizeKey ≤ b.sizeKey := by
  simp [sizeKey, Size.descending_le_iff, Path.le_iff]

end FileReport

namespace CorpusReport

section Order

variable {files others : List FileReport} (perm : others.Perm files) (skipped : List SkippedFile)

include perm

theorem merged_of_perm (table : FileReport → SizeTable) :
    merged (others.map table) = merged (files.map table) := by
  rw [merged_eq_collect, merged_eq_collect]
  exact SizeTable.collect_perm ((perm.map table).flatMap_right _)

theorem namespaces_of_perm : namespaces ⟨others, skipped⟩ = namespaces ⟨files, skipped⟩ :=
  merged_of_perm perm _

theorem types_of_perm : types ⟨others, skipped⟩ = types ⟨files, skipped⟩ :=
  merged_of_perm perm _

theorem assemblySizes_of_perm :
    assemblySizes ⟨others, skipped⟩ = assemblySizes ⟨files, skipped⟩ := by
  rw [assemblySizes, assemblySizes, SizeTable.collect_perm (perm.map _)]

theorem totalFileBytes_of_perm :
    totalFileBytes ⟨others, skipped⟩ = totalFileBytes ⟨files, skipped⟩ :=
  (perm.map FileReport.fileSize).sum_eq

theorem filesBySize_of_perm (distinct : files.Pairwise fun a b => ¬a.Ties b) :
    filesBySize ⟨others, skipped⟩ = filesBySize ⟨files, skipped⟩ := by
  apply mergeSort_of_perm FileReport.listedBefore_iff perm
  intro a membership b otherMembership same
  by_contra differ
  have symmetric : Std.Symm fun a b : FileReport => ¬a.Ties b :=
    ⟨fun _ _ apart ties => apart (FileReport.ties_iff.mpr (FileReport.ties_iff.mp ties).symm)⟩
  exact distinct.forall membership otherMembership differ (FileReport.ties_iff.mpr same)

end Order

end CorpusReport

/-- The places at which the rows of tables are visited: to merge the tables of a file, to rank a
table, and to add up the sizes of types. -/
inductive Visit where
  | mergingNamespaces (file : Nat)
  | mergingTypes (file : Nat)
  | rankingNamespaces
  | rankingTypes
  | addingTypes
  | rankingAssemblies
  | rankingSections (file : Nat)
deriving DecidableEq

/-- An order for the rows of a table at each place. Different places may visit the same table in
different orders. -/
structure Visiting where
  rows : Visit → SizeTable → List SizeRow
  perm : ∀ visit table, (rows visit table).Perm table.rows

/-- What a page shows of the tables of a corpus. -/
structure Figures where
  symbolBytes : Size
  namespaces : List SizeRow
  types : List SizeRow
  /-- The sections of the report at a place of the list of files. -/
  sections : Nat → FileReport → List SizeRow
  assemblies : List SizeRow

namespace CorpusReport

def figures (corpus : CorpusReport) (page : Page) : Figures where
  symbolBytes := corpus.totalSymbolBytes
  namespaces := corpus.topNamespaces page.topNamespaces
  types := corpus.topTypes page.topTypes
  sections _ report := report.sections.ranked
  assemblies := corpus.assemblySizes

end CorpusReport

namespace Page

variable (page : Page) (corpus : CorpusReport)

def linesOf (figures : Figures) : List Line :=
  let total := figures.symbolBytes
  let fileTotal := corpus.totalFileBytes
  summary total ++
    table "TOP NAMESPACES BY SIZE (across all files):"
      (fun row => partRow narrowWidth total (Attribution.shownScope row.1) row.2)
      figures.namespaces ++
    table "TOP TYPES BY SIZE (across all files):"
      (fun row => partRow wideWidth total row.1 row.2) figures.types ++
    (heading "FILE SIZE SUMMARY:" ++
      corpus.filesBySize.zipIdx.flatMap (fun (report, index) =>
        fileRow report ::
          if page.sections then
            ((figures.sections index report).take sectionLimit).map sectionRow
          else []) ++
      unlistedRemark corpus) ++
    (if figures.assemblies.isEmpty then []
      else
        table "ASSEMBLY SIZES (sorted by size):"
            (fun row => partRow narrowWidth fileTotal row.1 row.2) figures.assemblies ++
          [[], "  ".toList ++ sizeText narrowWidth "TOTAL".toList fileTotal]) ++
    skipped corpus

theorem lines_eq_linesOf : page.lines corpus = page.linesOf corpus (corpus.figures page) := by
  have rows : (corpus.filesBySize.zipIdx.flatMap fun (report, _) => page.fileRows report) =
      corpus.filesBySize.flatMap page.fileRows := by
    conv => rhs; rw [← List.zipIdx_map_fst 0 corpus.filesBySize, List.flatMap_map]
  rw [lines, files, ← rows]
  rfl

end Page

namespace Visiting

variable (visiting : Visiting)

def merged (place : Nat → Visit) (tables : List SizeTable) : SizeTable :=
  .collect (tables.zipIdx.flatMap fun (table, index) => visiting.rows (place index) table)

def ranked (place : Visit) (table : SizeTable) : List SizeRow :=
  (visiting.rows place table).mergeSort SizeTable.ranksBefore

def total (place : Visit) (table : SizeTable) : Size :=
  ((visiting.rows place table).map Prod.snd).sum

theorem merged_eq (place : Nat → Visit) (tables : List SizeTable) :
    visiting.merged place tables = CorpusReport.merged tables := by
  rw [CorpusReport.merged_eq_collect, merged]
  conv => rhs; rw [← List.zipIdx_map_fst 0 tables, List.flatMap_map]
  apply SizeTable.collect_perm
  apply List.Perm.flatMap_left
  intro entry _
  exact visiting.perm ..

theorem ranked_eq (place : Visit) (table : SizeTable) :
    visiting.ranked place table = table.ranked :=
  SizeTable.ranked_of_visited (visiting.perm place table)

theorem total_eq (place : Visit) (table : SizeTable) :
    visiting.total place table = table.total :=
  SizeTable.total_of_visited (visiting.perm place table)

section Corpus

variable (corpus : CorpusReport)

def namespaces : SizeTable :=
  visiting.merged .mergingNamespaces (corpus.files.map FileReport.namespaces)

def types : SizeTable :=
  visiting.merged .mergingTypes (corpus.files.map FileReport.types)

def topNamespaces (count : Nat) : List SizeRow :=
  (visiting.ranked .rankingNamespaces (visiting.namespaces corpus)).take count

def topTypes (count : Nat) : List SizeRow :=
  (visiting.ranked .rankingTypes (visiting.types corpus)).take count

def assemblySizes : List SizeRow :=
  visiting.ranked .rankingAssemblies
    (.collect (corpus.files.map fun report => (report.assembly, report.fileSize)))

def figures (page : Page) : Figures where
  symbolBytes := visiting.total .addingTypes (visiting.types corpus)
  namespaces := visiting.topNamespaces corpus page.topNamespaces
  types := visiting.topTypes corpus page.topTypes
  sections index report := visiting.ranked (.rankingSections index) report.sections
  assemblies := visiting.assemblySizes corpus

def render (page : Page) : String :=
  String.ofList ((page.linesOf corpus (visiting.figures corpus page)).flatMap (· ++ ['\n']))

theorem namespaces_eq : visiting.namespaces corpus = corpus.namespaces :=
  visiting.merged_eq ..

theorem types_eq : visiting.types corpus = corpus.types :=
  visiting.merged_eq ..

theorem topNamespaces_eq : visiting.topNamespaces corpus = corpus.topNamespaces := by
  funext count
  rw [topNamespaces, ranked_eq, namespaces_eq, CorpusReport.topNamespaces]

theorem topTypes_eq : visiting.topTypes corpus = corpus.topTypes := by
  funext count
  rw [topTypes, ranked_eq, types_eq, CorpusReport.topTypes]

theorem assemblySizes_eq : visiting.assemblySizes corpus = corpus.assemblySizes :=
  visiting.ranked_eq ..

/-- A page shows the same figures, in whatever orders the rows of tables are visited. -/
theorem figures_eq (page : Page) : visiting.figures corpus page = corpus.figures page := by
  simp only [figures, CorpusReport.figures, total_eq, types_eq, topNamespaces_eq, topTypes_eq,
    ranked_eq, assemblySizes_eq, CorpusReport.totalSymbolBytes]

theorem render_eq (page : Page) : visiting.render corpus page = page.render corpus := by
  rw [render, Page.render, figures_eq, Page.lines_eq_linesOf]

end Corpus

end Visiting

section Order

variable {files others : List FileReport} (perm : others.Perm files) (skipped : List SkippedFile)
  (page : Page)

include perm

theorem CorpusReport.figures_of_perm :
    figures ⟨others, skipped⟩ page = figures ⟨files, skipped⟩ page := by
  simp only [figures, totalSymbolBytes, topNamespaces, topTypes, namespaces_of_perm perm,
    types_of_perm perm, assemblySizes_of_perm perm]

theorem Page.unlistedRemark_of_perm :
    unlistedRemark ⟨others, skipped⟩ = unlistedRemark ⟨files, skipped⟩ := by
  rw [unlistedRemark, unlistedRemark, (perm.filter _).length_eq]

theorem Page.render_of_perm (distinct : files.Pairwise fun a b => ¬a.Ties b) :
    page.render ⟨others, skipped⟩ = page.render ⟨files, skipped⟩ := by
  have lines : page.lines ⟨others, skipped⟩ = page.lines ⟨files, skipped⟩ := by
    rw [lines_eq_linesOf, lines_eq_linesOf, CorpusReport.figures_of_perm perm, linesOf,
      CorpusReport.totalFileBytes_of_perm perm, CorpusReport.filesBySize_of_perm perm _ distinct,
      unlistedRemark_of_perm perm]
    rfl
  rw [render, render, lines]

end Order

/-- The same reports in another order, and with the rows of their tables visited in other orders,
come to the same totals, the same rankings and the same page. -/
theorem CorpusReport.render_reproducible {files others : List FileReport}
    (perm : others.Perm files) (distinct : files.Pairwise fun a b => ¬a.Ties b)
    (skipped : List SkippedFile) (first second : Visiting) :
    let corpus : CorpusReport := ⟨files, skipped⟩
    let shuffled : CorpusReport := ⟨others, skipped⟩
    second.namespaces shuffled = first.namespaces corpus ∧
    second.types shuffled = first.types corpus ∧
    (∀ count, second.topNamespaces shuffled count = first.topNamespaces corpus count) ∧
    (∀ count, second.topTypes shuffled count = first.topTypes corpus count) ∧
    shuffled.filesBySize = corpus.filesBySize ∧
    second.assemblySizes shuffled = first.assemblySizes corpus ∧
    ∀ page, second.render shuffled page = first.render corpus page ∧
      first.render corpus page = page.render corpus := by
  intro corpus shuffled
  refine ⟨?_, ?_, ?_, ?_, ?_, ?_, ?_⟩
  · rw [Visiting.namespaces_eq, Visiting.namespaces_eq]
    exact namespaces_of_perm perm skipped
  · rw [Visiting.types_eq, Visiting.types_eq]
    exact types_of_perm perm skipped
  · intro count
    rw [Visiting.topNamespaces_eq, Visiting.topNamespaces_eq, topNamespaces, topNamespaces,
      namespaces_of_perm perm skipped]
  · intro count
    rw [Visiting.topTypes_eq, Visiting.topTypes_eq, topTypes, topTypes,
      types_of_perm perm skipped]
  · exact filesBySize_of_perm perm skipped distinct
  · rw [Visiting.assemblySizes_eq, Visiting.assemblySizes_eq]
    exact assemblySizes_of_perm perm skipped
  · intro page
    rw [Visiting.render_eq, Visiting.render_eq]
    exact ⟨page.render_of_perm perm skipped distinct, rfl⟩

/-- Two files of the same size with the same namespaces, the rows of which are seen once from the
first to the last and once the other way. -/
theorem CorpusReport.render_reproducible_reversed :
    let sizes : SizeTable := .collect [("X", .clamp 10), ("Y", .clamp 10)]
    let report : String → FileReport := fun name =>
      ⟨⟨name⟩, "", .clamp 100, sizes, 2, sizes, sizes, some "nm"⟩
    let files := [report "a.so", report "b.so"]
    let forward : Visiting := ⟨fun _ table => table.rows, fun _ _ => .refl _⟩
    let backward : Visiting := ⟨fun _ table => table.rows.reverse, fun _ _ => List.reverse_perm _⟩
    files.reverse.Perm files ∧
    (files.Pairwise fun a b => ¬a.Ties b) ∧
    (backward.topNamespaces ⟨files.reverse, []⟩ 1 = forward.topNamespaces ⟨files, []⟩ 1) ∧
    ∀ page, backward.render ⟨files.reverse, []⟩ page = forward.render ⟨files, []⟩ page := by
  intro sizes report files forward backward
  have perm : files.reverse.Perm files := List.reverse_perm files
  have distinct : files.Pairwise fun a b => ¬a.Ties b := by decide
  obtain ⟨_, _, namespaces, _, _, _, pages⟩ :=
    render_reproducible perm distinct [] forward backward
  exact ⟨perm, distinct, namespaces 1, fun page => (pages page).1⟩

end SymbolFootprint
