import Mathlib.Data.List.TakeWhile
import SymbolFootprint.Report.Page

/-!
The parts of a page, read off under their titles.

A part ends at a blank line, and no other line of a page is mistaken for a title, because rows are
indented (`Begin`). So the page has just the rows of all files under the title for files
(`under_files`), and just the rows of the skipped files under the title for these (`under_skipped`).
-/

namespace SymbolFootprint.Page

/-- The lines under a title and its rule, up to a blank line. -/
def under (title : String) (lines : List Line) : List Line :=
  ((lines.dropWhile (· ≠ title.toList)).drop 2).takeWhile (· ≠ [])

/-- No line begins with another character. -/
def Begin (initials : List Char) (lines : List Line) : Prop :=
  ∀ line ∈ lines, ∀ c ∈ line.head?, c ∈ initials

/-- What is nothing, or begins with a blank line. -/
def Apart (lines : List Line) : Prop :=
  ∀ line ∈ lines.head?, line = []

theorem Apart.append {first second : List Line} (apart : Apart first) (alsoApart : Apart second) :
    Apart (first ++ second) := by
  cases first with
  | nil => exact alsoApart
  | cons line first => exact apart

theorem Apart.nil : Apart [] := by
  intro line head
  cases head

theorem Apart.blank (lines : List Line) : Apart ([] :: lines) := by
  intro line head
  exact (Option.some.inj head).symm

theorem under_eq_nil {title : String} {lines : List Line}
    (absent : title.toList ∉ lines) : under title lines = [] := by
  have none : lines.dropWhile (· ≠ title.toList) = [] := by
    rw [List.dropWhile_eq_nil_iff]
    intro line membership
    exact decide_eq_true fun same => absent (same ▸ membership)
  rw [under, none]
  rfl

theorem under_heading {title : String} {front rows back : List Line}
    (absent : title.toList ∉ front) (isTitle : title.toList.head? ∉ [none, some '='])
    (indented : ∀ row ∈ rows, row.head? = some ' ') (apart : Apart back) :
    under title (front ++ heading title ++ rows ++ back) = rows := by
  have blank : [] ≠ title.toList := fun same => isTitle (by simp [← same])
  have rule : List.replicate ruleWidth '=' ≠ title.toList := fun same =>
    isTitle (by simp [← same, ruleWidth])
  have before : ∀ line ∈ front ++ [[], List.replicate ruleWidth '='],
      decide (line ≠ title.toList) = true := by
    intro line membership
    simp only [List.mem_append, List.mem_cons, List.not_mem_nil, or_false] at membership
    rcases membership with inside | rfl | rfl
    · exact decide_eq_true fun same => absent (same ▸ inside)
    · exact decide_eq_true blank
    · exact decide_eq_true rule
  have cut : front ++ heading title ++ rows ++ back =
      (front ++ [[], List.replicate ruleWidth '=']) ++
        title.toList :: List.replicate ruleWidth '=' :: (rows ++ back) := by
    simp [heading]
  have filled : ∀ row ∈ rows, decide (row ≠ []) = true := by
    intro row membership
    refine decide_eq_true fun empty => ?_
    have head := indented row membership
    rw [empty] at head
    cases head
  have stop : back.takeWhile (· ≠ []) = [] := by
    cases back with
    | nil => rfl
    | cons line back => simp [apart line rfl]
  rw [under, cut, List.dropWhile_append_of_pos before,
    List.dropWhile_cons_of_neg (by simp), List.drop_succ_cons, List.drop_succ_cons, List.drop_zero,
    List.takeWhile_append_of_pos filled, stop, List.append_nil]

namespace Begin

variable {initials : List Char}

theorem nil : Begin initials [] := by
  intro line membership
  cases membership

theorem append {first second : List Line} (begins : Begin initials first)
    (alsoBegins : Begin initials second) : Begin initials (first ++ second) := by
  intro line membership
  rcases List.mem_append.mp membership with inside | inside
  · exact begins line inside
  · exact alsoBegins line inside

theorem not_mem {lines : List Line} (begins : Begin initials lines) {line : Line} {c : Char}
    (head : line.head? = some c) (other : c ∉ initials) : line ∉ lines :=
  fun membership => other (begins line membership c head)

theorem mono {lines : List Line} {more : List Char} (begins : Begin initials lines)
    (included : initials ⊆ more) : Begin more lines :=
  fun line membership c head => included (begins line membership c head)

theorem of_indented {lines : List Line} (blank : ' ' ∈ initials)
    (indented : ∀ line ∈ lines, line.head? = some ' ') : Begin initials lines := by
  intro line membership c head
  rw [indented line membership, Option.mem_some_iff] at head
  rwa [← head]

theorem remark {line : Line} {c : Char} (head : line.head? = some c) (own : c ∈ initials) :
    Begin initials [[], line] := by
  intro member membership first inside
  simp only [List.mem_cons, List.not_mem_nil, or_false] at membership
  rcases membership with rfl | rfl
  · cases inside
  · rw [head, Option.mem_some_iff] at inside
    rwa [← inside]

theorem heading {title : String} {c : Char} (head : title.toList.head? = some c)
    (own : c ∈ initials) (rule : '=' ∈ initials) : Begin initials (Page.heading title) := by
  intro line membership
  simp only [Page.heading, List.mem_cons, List.not_mem_nil, or_false] at membership
  rcases membership with rfl | rfl | rfl | rfl
  · simp
  · simpa [ruleWidth] using rule
  · simpa [head] using own
  · simpa [ruleWidth] using rule

end Begin

section Rows

theorem head?_partRow (width : Nat) (total : Size) (label : String) (size : Size) :
    (partRow width total label size).head? = some ' ' := by
  unfold partRow
  simp only [List.append_assoc, List.head?_append]
  rfl

theorem head?_fileRow (report : FileReport) : (fileRow report).head? = some ' ' := by
  unfold fileRow
  simp only [List.append_assoc, List.head?_append]
  rfl

theorem head?_sectionRow (row : SizeRow) : (sectionRow row).head? = some ' ' := by
  unfold sectionRow
  simp only [List.head?_append]
  rfl

theorem head?_skippedRow (file : SkippedFile) : (skippedRow file).head? = some ' ' := by
  unfold skippedRow
  simp only [String.toList_append, List.append_assoc, List.head?_append]
  rfl

theorem head?_of_mem_fileRows {page : Page} {report : FileReport} {line : Line}
    (membership : line ∈ page.fileRows report) : line.head? = some ' ' := by
  rcases List.mem_cons.mp membership with rfl | inside
  · exact head?_fileRow report
  · split at inside
    · obtain ⟨row, _, rfl⟩ := List.mem_map.mp inside
      exact head?_sectionRow row
    · cases inside

end Rows

theorem apart_table (title : String) (row : SizeRow → Line) (rows : List SizeRow) :
    Apart (table title row rows) := by
  unfold table
  split
  · exact .nil
  · exact .blank _

theorem Begin.table {initials : List Char} {title : String} {c : Char}
    (head : title.toList.head? = some c) (own : c ∈ initials) (rule : '=' ∈ initials)
    (blank : ' ' ∈ initials) {row : SizeRow → Line}
    (indented : ∀ entry, (row entry).head? = some ' ') (rows : List SizeRow) :
    Begin initials (Page.table title row rows) := by
  unfold Page.table
  split
  · exact .nil
  · apply (Begin.heading head own rule).append
    apply Begin.of_indented blank
    intro line membership
    obtain ⟨entry, _, rfl⟩ := List.mem_map.mp membership
    exact indented entry

section Parts

variable (page : Page) (corpus : CorpusReport)

/-- What stands before the part for files. -/
def front : List Line :=
  let total := corpus.totalSymbolBytes
  summary total ++
    table "TOP NAMESPACES BY SIZE (across all files):"
      (fun row => partRow narrowWidth total (Attribution.shownScope row.1) row.2)
      (corpus.topNamespaces page.topNamespaces) ++
    table "TOP TYPES BY SIZE (across all files):"
      (fun row => partRow wideWidth total row.1 row.2)
      (corpus.topTypes page.topTypes)

theorem lines_eq : page.lines corpus =
    page.front corpus ++ heading "FILE SIZE SUMMARY:" ++
      corpus.filesBySize.flatMap page.fileRows ++
      (unlistedRemark corpus ++ assemblies corpus ++ skipped corpus) := by
  simp only [lines, front, files, List.append_assoc]

theorem begin_summary (total : Size) : Begin ['T', '=', ' '] (summary total) := by
  apply Begin.remark (c := 'T') _ (by decide)
  simp only [List.append_assoc, List.head?_append]
  rfl

theorem begin_front : Begin ['T', '=', ' '] (page.front corpus) := by
  apply ((begin_summary _).append _).append
  · exact .table rfl (by decide) (by decide) (by decide) (fun _ => head?_partRow ..) _
  · exact .table rfl (by decide) (by decide) (by decide) (fun _ => head?_partRow ..) _

theorem head?_of_mem_rows :
    ∀ line ∈ corpus.filesBySize.flatMap page.fileRows, line.head? = some ' ' := by
  intro line membership
  obtain ⟨report, _, inside⟩ := List.mem_flatMap.mp membership
  exact head?_of_mem_fileRows inside

theorem begin_unlistedRemark : Begin [' '] (unlistedRemark corpus) := by
  unfold unlistedRemark
  dsimp only
  split
  · exact .nil
  · apply Begin.remark (c := ' ') _ (by decide)
    simp only [List.append_assoc, List.head?_append]
    rfl

theorem begin_total (total : Size) :
    Begin [' '] [[], "  ".toList ++ sizeText narrowWidth "TOTAL".toList total] := by
  apply Begin.remark (c := ' ') _ (by decide)
  rw [List.head?_append]
  rfl

theorem begin_assemblies : Begin ['A', '=', ' '] (assemblies corpus) := by
  unfold assemblies
  dsimp only
  split
  · exact .nil
  · apply Begin.append
    · exact .table rfl (by decide) (by decide) (by decide) (fun _ => head?_partRow ..) _
    · exact (begin_total _).mono (by decide)

theorem apart_unlistedRemark : Apart (unlistedRemark corpus) := by
  unfold unlistedRemark
  dsimp only
  split
  · exact .nil
  · exact .blank _

theorem apart_assemblies : Apart (assemblies corpus) := by
  unfold assemblies
  dsimp only
  split
  · exact .nil
  · exact Apart.append (apart_table _ _ _) (.blank _)

theorem apart_skipped : Apart (skipped corpus) := by
  unfold skipped
  split
  · exact .nil
  · exact .blank _

theorem under_files : under "FILE SIZE SUMMARY:" (page.lines corpus) =
    corpus.filesBySize.flatMap page.fileRows := by
  rw [lines_eq]
  apply under_heading
  · exact (begin_front page corpus).not_mem (c := 'F') rfl (by decide)
  · decide
  · exact head?_of_mem_rows page corpus
  · exact ((apart_unlistedRemark corpus).append (apart_assemblies corpus)).append
      (apart_skipped corpus)

theorem begin_before_skipped : Begin ['T', 'F', 'A', '=', ' ']
    (page.front corpus ++ heading "FILE SIZE SUMMARY:" ++
      corpus.filesBySize.flatMap page.fileRows ++ (unlistedRemark corpus ++ assemblies corpus)) := by
  have front : Begin ['T', 'F', 'A', '=', ' '] (page.front corpus) :=
    (begin_front page corpus).mono (by decide)
  have rows : Begin ['T', 'F', 'A', '=', ' '] (corpus.filesBySize.flatMap page.fileRows) :=
    .of_indented (by decide) (head?_of_mem_rows page corpus)
  have remark : Begin ['T', 'F', 'A', '=', ' '] (unlistedRemark corpus) :=
    (begin_unlistedRemark corpus).mono (by decide)
  have assemblies : Begin ['T', 'F', 'A', '=', ' '] (assemblies corpus) :=
    (begin_assemblies corpus).mono (by decide)
  have title : Begin ['T', 'F', 'A', '=', ' '] (heading "FILE SIZE SUMMARY:") :=
    .heading (c := 'F') rfl (by decide) (by decide)
  exact ((front.append title).append rows).append (remark.append assemblies)

theorem under_skipped : under "SKIPPED FILES:" (page.lines corpus) =
    corpus.skipped.map skippedRow := by
  have absent : "SKIPPED FILES:".toList ∉ _ :=
    (begin_before_skipped page corpus).not_mem (c := 'S') rfl (by decide)
  rw [lines_eq, ← List.append_assoc, skipped]
  split
  · next none =>
    rw [List.append_nil, under_eq_nil absent, List.isEmpty_iff.mp none, List.map_nil]
  · have indented : ∀ row ∈ corpus.skipped.map skippedRow, row.head? = some ' ' := by
      intro row membership
      obtain ⟨file, _, rfl⟩ := List.mem_map.mp membership
      exact head?_skippedRow file
    have found := under_heading absent (by decide) indented .nil
    rwa [List.append_nil, List.append_assoc] at found

end Parts

end SymbolFootprint.Page
