import Mathlib.Data.List.Flatten
import SymbolFootprint.Proofs.Report.Aggregation
import SymbolFootprint.Report.CorpusReport

/-!
Reports on many files compared with one report on all of their symbols.

Merging tables is collecting all of their rows (`merged_eq_collect`). The rows of a file are those
of its symbols one by one (`flatten_rowsBy`), so it does not matter how the symbols are spread over
files, nor in which order the rows of a table are visited (`totals_of_distribution`).
-/

namespace SymbolFootprint

namespace CorpusReport

theorem merged_eq_collect (tables : List SizeTable) :
    merged tables = .collect (tables.flatMap SizeTable.rows) := by
  induction tables using List.reverseRecOn with
  | nil => rfl
  | append_singleton tables table inductionHypothesis =>
    rw [merged, List.foldl_append, List.foldl_cons, List.foldl_nil, ← merged, inductionHypothesis,
      SizeTable.merge_collect, List.flatMap_append, List.flatMap_singleton]

/-- If some table collects the rows of all reports in every order, then merging gives this table. -/
theorem merged_eq_of_listings (table : FileReport → SizeTable) {reports : List FileReport}
    {all : SizeTable} (collected : ∀ listings : List (List SizeRow),
      List.Forall₂ List.Perm listings (reports.map fun report => (table report).rows) →
      SizeTable.collect listings.flatten = all) :
    merged (reports.map table) = all := by
  have own := collected _ (List.forall₂_same.mpr fun _ _ => List.Perm.refl _)
  rw [← own, merged_eq_collect, List.flatMap_map, List.flatMap_def]

end CorpusReport

namespace FileReport

variable (demangler : Demangler) (rules : Rules)

theorem flatten_rowsBy (key : Attribution → String) (keep : SizeRow → Bool)
    (parts : List (List SymbolRecord)) :
    (parts.map fun records => (rowsBy demangler rules key records).filter keep).flatten =
      (rowsBy demangler rules key parts.flatten).filter keep := by
  induction parts with
  | nil => rfl
  | cons records parts inductionHypothesis =>
    rw [List.map_cons, List.flatten_cons, List.flatten_cons, inductionHypothesis, rowsBy_append,
      List.filter_append]

/-- Tables collected from parts of the symbols make up the table collected from all of them, in
whatever order the rows of each table are listed. -/
theorem collect_listings (key : Attribution → String) (keep : SizeRow → Bool)
    {parts : List (List SymbolRecord)} {all : List SymbolRecord} (perm : all.Perm parts.flatten)
    (listings : List (List SizeRow))
    (listed : List.Forall₂ List.Perm listings (parts.map fun records =>
      (SizeTable.collect ((rowsBy demangler rules key records).filter keep)).rows)) :
    SizeTable.collect listings.flatten =
      .collect ((rowsBy demangler rules key all).filter keep) := by
  calc SizeTable.collect listings.flatten
      = .collect (parts.map fun records =>
          (SizeTable.collect ((rowsBy demangler rules key records).filter keep)).rows).flatten :=
        SizeTable.collect_perm (List.Perm.flatten_congr listed)
    _ = .collect (parts.map fun records =>
          (rowsBy demangler rules key records).filter keep).flatten := by
        have regrouped := SizeTable.collect_parts
          (parts.map fun records => (rowsBy demangler rules key records).filter keep)
        rw [List.map_map] at regrouped
        exact regrouped
    _ = .collect ((rowsBy demangler rules key all).filter keep) := by
        rw [flatten_rowsBy]
        apply SizeTable.collect_perm
        exact (rowsBy_perm demangler rules key (perm.symm.filter _)).filter _

/-- A table that collects the rows of the symbols of a file can be collected from the tables of
files that hold these symbols together. -/
theorem table_of_listings (key : Attribution → String) (keep : SizeRow → Bool)
    (table : FileReport → SizeTable)
    (collects : ∀ target selection, table (ofSelection demangler rules target selection) =
      .collect ((rowsBy demangler rules key selection.records).filter keep))
    {parts : List (Backend.Target × Selection)} (target : Backend.Target) {whole : Selection}
    (distributed : whole.records.Perm (parts.flatMap fun part => part.2.records))
    (listings : List (List SizeRow))
    (listed : List.Forall₂ List.Perm listings
      ((parts.map fun part => ofSelection demangler rules part.1 part.2).map
        fun report => (table report).rows)) :
    SizeTable.collect listings.flatten = table (ofSelection demangler rules target whole) := by
  rw [List.flatMap_def] at distributed
  rw [collects]
  apply collect_listings demangler rules key keep distributed
  rw [List.map_map] at listed ⊢
  simpa only [Function.comp_def, collects] using listed

theorem sum_symbolCount (parts : List (Backend.Target × Selection)) :
    (parts.map fun part => (ofSelection demangler rules part.1 part.2).symbolCount).sum =
      ((parts.flatMap fun part => part.2.records).filter SymbolRecord.attributable).length := by
  induction parts with
  | nil => rfl
  | cons part parts inductionHypothesis =>
    rw [List.map_cons, List.sum_cons, inductionHypothesis, symbolCount_ofSelection,
      List.flatMap_cons, List.filter_append, List.length_append]

end FileReport

namespace CorpusReport

/-- Splitting symbols over files does not matter: the totals are the tables of one report on all
symbols, and the numbers of symbols add up. The totals do not depend on the order in which the rows
of the tables of a file are visited. -/
theorem totals_of_distribution (demangler : Demangler) (rules : Rules)
    (parts : List (Backend.Target × Selection)) (target : Backend.Target) (whole : Selection)
    (distributed : whole.records.Perm (parts.flatMap fun part => part.2.records)) :
    let reports := parts.map fun part => FileReport.ofSelection demangler rules part.1 part.2
    let corpus := ofFiles reports
    let report := FileReport.ofSelection demangler rules target whole
    corpus.namespaces = report.namespaces ∧
    corpus.types = report.types ∧
    (corpus.files.map FileReport.symbolCount).sum = report.symbolCount ∧
    (∀ listings : List (List SizeRow),
      List.Forall₂ List.Perm listings (reports.map fun report => report.namespaces.rows) →
      SizeTable.collect listings.flatten = report.namespaces) ∧
    ∀ listings : List (List SizeRow),
      List.Forall₂ List.Perm listings (reports.map fun report => report.types.rows) →
      SizeTable.collect listings.flatten = report.types := by
  intro reports corpus report
  have namespaces : ∀ listings : List (List SizeRow),
      List.Forall₂ List.Perm listings (reports.map fun report => report.namespaces.rows) →
      SizeTable.collect listings.flatten = report.namespaces := by
    apply FileReport.table_of_listings demangler rules Attribution.scope _ FileReport.namespaces
      (FileReport.namespaces_ofSelection demangler rules) target distributed
  have types : ∀ listings : List (List SizeRow),
      List.Forall₂ List.Perm listings (reports.map fun report => report.types.rows) →
      SizeTable.collect listings.flatten = report.types := by
    apply FileReport.table_of_listings demangler rules Attribution.typeKey (fun _ => true)
      FileReport.types _ target distributed
    intro target selection
    rw [List.filter_true, FileReport.types_ofSelection]
  refine ⟨?_, ?_, ?_, namespaces, types⟩
  · exact merged_eq_of_listings FileReport.namespaces namespaces
  · exact merged_eq_of_listings FileReport.types types
  · rw [FileReport.symbolCount_ofSelection, (distributed.filter _).length_eq,
      ← FileReport.sum_symbolCount demangler rules]
    exact congrArg List.sum (List.map_map ..)

theorem totals_of_two_files :
    let large : SymbolRecord := ⟨"System_Object_Equals", .clamp (2 ^ 64 - 1), .function⟩
    let small : SymbolRecord := ⟨"System_Object_ToString", .clamp 7, .function⟩
    let target : Backend.Target := ⟨⟨"libaot-Demo.dll.so"⟩, .empty, .none⟩
    let listed := fun records => (⟨[], some ⟨"nm", records⟩⟩ : Selection)
    let parts := [(target, listed [large]), (target, listed [small])]
    let reports := parts.map fun part =>
      FileReport.ofSelection .roots .standard part.1 part.2
    let report := FileReport.ofSelection .roots .standard target (listed [small, large])
    (listed [small, large]).records.Perm (parts.flatMap fun part => part.2.records) ∧
    (ofFiles reports).namespaces = report.namespaces ∧
    (ofFiles reports).types = report.types ∧
    (reports.map FileReport.symbolCount).sum = report.symbolCount := by
  intro large small target listed parts reports report
  have perm : (listed [small, large]).records.Perm (parts.flatMap fun part => part.2.records) :=
    .swap large small []
  obtain ⟨namespaces, types, count, _⟩ :=
    totals_of_distribution .roots .standard parts target (listed [small, large]) perm
  exact ⟨perm, namespaces, types, count⟩

end CorpusReport

end SymbolFootprint
