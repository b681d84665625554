import SymbolFootprint.Proofs.Report.Sections

/-!
The tables of a page, read off under their titles.

A table has a title that stands nowhere else on the page, so under it there are just the rows of the
table, or nothing if the table has no rows (`under_table`). This holds of the tables for namespaces
(`under_namespaces`), types (`under_types`) and assemblies (`under_assemblies`).
-/

namespace SymbolFootprint.Page

section Titles

variable {title : String} {row : SizeRow → Line}

theorem not_mem_table {other : String} (differs : title ≠ other)
    (isTitle : title.toList.head? ∉ [none, some '=', some ' '])
    (indented : ∀ entry, (row entry).head? = some ' ') (rows : List SizeRow) :
    title.toList ∉ table other row rows := by
  simp only [List.mem_cons, List.not_mem_nil, or_false, not_or] at isTitle
  obtain ⟨nonempty, noRule, noBlank⟩ := isTitle
  intro membership
  unfold table at membership
  split at membership
  · cases membership
  · rcases List.mem_append.mp membership with inHeading | inRows
    · simp only [heading, List.mem_cons, List.not_mem_nil, or_false] at inHeading
      rcases inHeading with blank | rule | same | rule
      · simp [blank] at nonempty
      · simp [rule, ruleWidth] at noRule
      · exact differs (String.toList_inj.mp same)
      · simp [rule, ruleWidth] at noRule
    · obtain ⟨entry, _, same⟩ := List.mem_map.mp inRows
      exact noBlank (same ▸ indented entry)

theorem under_table {front back : List Line} (rows : List SizeRow)
    (absent : title.toList ∉ front) (absentBehind : title.toList ∉ back)
    (isTitle : title.toList.head? ∉ [none, some '='])
    (indented : ∀ entry, (row entry).head? = some ' ') (apart : Apart back) :
    under title (front ++ table title row rows ++ back) = rows.map row := by
  unfold table
  split
  · next none =>
    rw [List.isEmpty_iff.mp none, List.append_nil, List.map_nil]
    apply under_eq_nil
    simp [absent, absentBehind]
  · rw [← List.append_assoc front]
    apply under_heading absent isTitle _ apart
    intro line membership
    obtain ⟨entry, _, rfl⟩ := List.mem_map.mp membership
    exact indented entry

end Titles

section Parts

variable (page : Page) (corpus : CorpusReport)

theorem begin_files : Begin ['F', '=', ' '] (page.files corpus) := by
  unfold files
  apply Begin.append
  · apply Begin.append
    · exact .heading (c := 'F') rfl (by decide) (by decide)
    · exact .of_indented (by decide) (head?_of_mem_rows page corpus)
  · exact (begin_unlistedRemark corpus).mono (by decide)

theorem apart_files : Apart (page.files corpus) := by
  unfold files heading
  exact .blank _

theorem begin_skipped : Begin ['S', '=', ' '] (skipped corpus) := by
  unfold skipped
  split
  · exact .nil
  · apply Begin.append
    · exact .heading (c := 'S') rfl (by decide) (by decide)
    · apply Begin.of_indented (by decide)
      intro line membership
      obtain ⟨file, _, rfl⟩ := List.mem_map.mp membership
      exact head?_skippedRow file

theorem begin_behind_types :
    Begin ['F', 'A', 'S', '=', ' '] (page.files corpus ++ assemblies corpus ++ skipped corpus) := by
  apply Begin.append
  · apply Begin.append
    · exact (begin_files page corpus).mono (by decide)
    · exact (begin_assemblies corpus).mono (by decide)
  · exact (begin_skipped corpus).mono (by decide)

theorem apart_behind_types :
    Apart (page.files corpus ++ assemblies corpus ++ skipped corpus) :=
  ((apart_files page corpus).append (apart_assemblies corpus)).append (apart_skipped corpus)

theorem not_mem_summary {title : String} (second : title.toList[1]? = some 'O') (total : Size) :
    title.toList ∉ summary total := by
  intro membership
  simp only [summary, List.mem_cons, List.not_mem_nil, or_false] at membership
  rcases membership with blank | same
  · simp [blank] at second
  · rw [same] at second
    simp only [List.append_assoc] at second
    cases second

theorem under_namespaces :
    under "TOP NAMESPACES BY SIZE (across all files):" (page.lines corpus) =
      (corpus.topNamespaces page.topNamespaces).map fun row =>
        partRow narrowWidth corpus.totalSymbolBytes (Attribution.shownScope row.1) row.2 := by
  unfold lines
  simp only [List.append_assoc]
  rw [← List.append_assoc (summary _)]
  apply under_table
  · exact not_mem_summary rfl _
  · rw [List.mem_append, not_or]
    constructor
    · exact not_mem_table (by decide) (by decide) (fun _ => head?_partRow ..) _
    · rw [← List.append_assoc]
      exact (begin_behind_types page corpus).not_mem (c := 'T') rfl (by decide)
  · decide
  · exact fun _ => head?_partRow ..
  · rw [← List.append_assoc (page.files corpus)]
    exact (apart_table _ _ _).append (apart_behind_types page corpus)

theorem under_types :
    under "TOP TYPES BY SIZE (across all files):" (page.lines corpus) =
      (corpus.topTypes page.topTypes).map fun row =>
        partRow wideWidth corpus.totalSymbolBytes row.1 row.2 := by
  unfold lines
  rw [List.append_assoc, List.append_assoc, ← List.append_assoc (page.files corpus)]
  apply under_table
  · rw [List.mem_append, not_or]
    constructor
    · exact not_mem_summary rfl _
    · exact not_mem_table (by decide) (by decide) (fun _ => head?_partRow ..) _
  · exact (begin_behind_types page corpus).not_mem (c := 'T') rfl (by decide)
  · decide
  · exact fun _ => head?_partRow ..
  · exact apart_behind_types page corpus

/-- The part for assemblies is a table, and a line for the total where the table has rows. -/
theorem assemblies_eq : assemblies corpus =
    table "ASSEMBLY SIZES (sorted by size):"
        (fun row => partRow narrowWidth corpus.totalFileBytes row.1 row.2) corpus.assemblySizes ++
      if corpus.assemblySizes.isEmpty then []
      else [[], "  ".toList ++ sizeText narrowWidth "TOTAL".toList corpus.totalFileBytes] := by
  unfold assemblies table
  dsimp only
  split <;> rfl

theorem under_assemblies :
    under "ASSEMBLY SIZES (sorted by size):" (page.lines corpus) =
      corpus.assemblySizes.map fun row =>
        partRow narrowWidth corpus.totalFileBytes row.1 row.2 := by
  have whole : page.lines corpus =
      (page.front corpus ++ page.files corpus) ++ assemblies corpus ++ skipped corpus := by
    simp only [lines, front, List.append_assoc]
  rw [whole, assemblies_eq, ← List.append_assoc, List.append_assoc]
  have total : Begin [' '] (if corpus.assemblySizes.isEmpty then []
      else [[], "  ".toList ++ sizeText narrowWidth "TOTAL".toList corpus.totalFileBytes]) := by
    split
    · exact .nil
    · exact begin_total _
  apply under_table
  · have front : Begin ['T', 'F', '=', ' '] (page.front corpus) :=
      (begin_front page corpus).mono (by decide)
    have files : Begin ['T', 'F', '=', ' '] (page.files corpus) :=
      (begin_files page corpus).mono (by decide)
    exact (front.append files).not_mem (c := 'A') rfl (by decide)
  · have behind := (total.mono (by decide)).append (begin_skipped corpus)
    exact behind.not_mem (c := 'A') rfl (by decide)
  · decide
  · exact fun _ => head?_partRow ..
  · apply Apart.append _ (apart_skipped corpus)
    split
    · exact .nil
    · exact .blank _

end Parts

end SymbolFootprint.Page
