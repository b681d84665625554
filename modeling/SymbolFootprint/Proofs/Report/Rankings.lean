import SymbolFootprint.Proofs.Path.ByteOrder
import SymbolFootprint.Proofs.Report.Reproducibility

/-!
Rankings as the only listings in order.

Rows are in a strict order, by size and by the bytes of their keys, so a table has a single listing
in this order, and sorting finds it in whatever order the rows are visited (`isRanking_iff`). Its
front holds the largest rows (`isTop_take_ranked`). Files can tie, and those that do stay in the
order of the corpus (`isFileListing_filesBySize`).
-/

namespace SymbolFootprint

namespace SizeTable

/-- The first row is larger, or it is of the same size and the bytes of its key come first. -/
def RanksAbove (a b : SizeRow) : Prop :=
  b.2 < a.2 ∨ a.2 = b.2 ∧ Utf8.encode a.1.toList < Utf8.encode b.1.toList

/-- All rows of the table, in order. -/
structure IsRanking (table : SizeTable) (listing : List SizeRow) : Prop where
  perm : listing.Perm table.rows
  sorted : listing.Pairwise RanksAbove

/-- The front of a ranking, with as many rows as are wanted, or all. The rows that are left out come
later. -/
structure IsTop (table : SizeTable) (count : Nat) (top : List SizeRow) : Prop where
  length : top.length = min count table.rows.length
  front : ∃ dropped, table.IsRanking (top ++ dropped) ∧
    ∀ kept ∈ top, ∀ row ∈ dropped, RanksAbove kept row

theorem ranksAbove_iff {a b : SizeRow} :
    RanksAbove a b ↔ a.2.descending a.1 < b.2.descending b.1 := by
  rw [RanksAbove, Utf8.encode_lt_encode_iff, ← String.lt_iff, Size.descending_lt_iff]

theorem isRanking_ranked (table : SizeTable) : table.IsRanking table.ranked where
  perm := List.mergeSort_perm ..
  sorted := by
    have ordered := pairwise_mergeSort_of_keyed ranksBefore_iff table.rows
    have distinct : (table.rows.mergeSort ranksBefore).Nodup :=
      (List.mergeSort_perm ..).nodup_iff.mpr table.nodup_rows
    refine (ordered.and distinct).imp fun {a b} ⟨before, differ⟩ => ?_
    refine ranksAbove_iff.mpr (lt_of_le_of_ne before fun same => differ ?_)
    obtain ⟨sizes, keys⟩ := Size.descending_inj.mp same
    exact Prod.ext keys sizes

/-- A table has a single listing in order. -/
theorem isRanking_iff {table : SizeTable} {listing : List SizeRow} :
    table.IsRanking listing ↔ listing = table.ranked := by
  constructor
  · intro isRanking
    have ranked := isRanking_ranked table
    have perm : listing.Perm table.ranked := isRanking.perm.trans ranked.perm.symm
    refine perm.eq_of_pairwise ?_ isRanking.sorted ranked.sorted
    intro a b _ _ before after
    exact absurd (ranksAbove_iff.mp before) (ranksAbove_iff.mp after).not_gt
  · rintro rfl
    exact isRanking_ranked table

theorem isTop_take_ranked (table : SizeTable) (count : Nat) :
    table.IsTop count (table.ranked.take count) where
  length := by rw [List.length_take, (isRanking_ranked table).perm.length_eq]
  front := by
    have isRanking := isRanking_ranked table
    rw [← List.take_append_drop count table.ranked] at isRanking
    exact ⟨table.ranked.drop count, isRanking, (List.pairwise_append.mp isRanking.sorted).2.2⟩

end SizeTable

namespace FileReport

/-- The first file is larger, or it is of the same size and its path comes first. -/
def ListedBefore (a b : FileReport) : Prop :=
  b.fileSize < a.fileSize ∨ a.fileSize = b.fileSize ∧ a.path.ComesBefore b.path

theorem listedBefore_iff_key {a b : FileReport} : a.ListedBefore b ↔ a.sizeKey < b.sizeKey := by
  rw [ListedBefore, Path.comesBefore_iff, sizeKey, sizeKey, Size.descending_lt_iff]

end FileReport

namespace CorpusReport

/-- All files in order. Those that tie are in the order of the given list. -/
structure IsFileListing (files listing : List FileReport) : Prop where
  perm : listing.Perm files
  sorted : listing.Pairwise fun a b => a.ListedBefore b ∨ a.Ties b
  stable : ∀ report : FileReport,
    (listing.filter fun other => report.Ties other) = files.filter fun other => report.Ties other

theorem isFileListing_filesBySize (corpus : CorpusReport) :
    IsFileListing corpus.files corpus.filesBySize where
  perm := List.mergeSort_perm ..
  sorted := by
    have ordered := pairwise_mergeSort_of_keyed FileReport.listedBefore_iff corpus.files
    refine ordered.imp fun {a b} before => ?_
    rcases before.lt_or_eq with less | same
    · exact .inl (FileReport.listedBefore_iff_key.mpr less)
    · exact .inr (FileReport.ties_iff.mpr same)
  stable := by
    intro report
    apply filter_mergeSort_of_keyed FileReport.listedBefore_iff
    intro a b ties otherTies
    have key : report.sizeKey = a.sizeKey := FileReport.ties_iff.mp (of_decide_eq_true ties)
    have otherKey : report.sizeKey = b.sizeKey :=
      FileReport.ties_iff.mp (of_decide_eq_true otherTies)
    exact key.symm.trans otherKey

/-- In whatever orders the rows of tables are visited, a ranking is the one listing of its table in
order, and the largest namespaces and types are the fronts of theirs. Files are listed from the
largest to the smallest and by path, and those that tie stay as they are. -/
theorem rankings_exact (corpus : CorpusReport) (visiting : Visiting) :
    (∀ place table listing,
      SizeTable.IsRanking table listing ↔ listing = visiting.ranked place table) ∧
    (∀ count, visiting.topNamespaces corpus count = corpus.topNamespaces count ∧
      corpus.namespaces.IsTop count (corpus.topNamespaces count)) ∧
    (∀ count, visiting.topTypes corpus count = corpus.topTypes count ∧
      corpus.types.IsTop count (corpus.topTypes count)) ∧
    IsFileListing corpus.files corpus.filesBySize := by
  refine ⟨?_, ?_, ?_, isFileListing_filesBySize corpus⟩
  · intro place table listing
    rw [visiting.ranked_eq]
    exact SizeTable.isRanking_iff
  · intro count
    rw [visiting.topNamespaces_eq]
    exact ⟨rfl, SizeTable.isTop_take_ranked corpus.namespaces count⟩
  · intro count
    rw [visiting.topTypes_eq]
    exact ⟨rfl, SizeTable.isTop_take_ranked corpus.types count⟩

end CorpusReport

end SymbolFootprint
