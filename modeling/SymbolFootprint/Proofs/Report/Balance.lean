import SymbolFootprint.Proofs.Report.Distribution
import SymbolFootprint.Proofs.Size.Bounds
import SymbolFootprint.Proofs.SizeTable.Ranking

/-!
Totals that are computed along different ways come to the same.

The total of a merged table is the sum of the totals of its parts (`total_merged`), so the symbols
of all files have the size of the symbols of each of them, added up. Assemblies group the files, and
the groups have the size of all files. No row of a table is larger than its total, and no namespace
is larger than the total of the types, because a symbol without a namespace is missing among the
namespaces and no other one is (`totals_balance`).
-/

namespace SymbolFootprint

namespace SizeTable

@[simp]
theorem mem_ranked {table : SizeTable} {row : SizeRow} :
    row ∈ table.ranked ↔ row ∈ table.rows :=
  List.mem_mergeSort

theorem sum_ranked (table : SizeTable) : (table.ranked.map Prod.snd).sum = table.total :=
  total_of_visited (List.mergeSort_perm ..)

theorem le_total {table : SizeTable} {row : SizeRow} (membership : row ∈ table.rows) :
    row.2 ≤ table.total :=
  Size.le_sum (List.mem_map_of_mem membership)

end SizeTable

namespace FileReport

/-- The tables sum up symbols under the namespaces and the types that they are attributed to, in
whatever way they are. -/
def IsAggregate (report : FileReport) : Prop :=
  ∃ (attributed : String → Attribution) (records : List SymbolRecord),
    let attributions := (records.filter SymbolRecord.attributable).map fun record =>
      (attributed record.identifier, record.size)
    report.namespaces = namespaceSizes attributions ∧ report.types = typeSizes attributions

theorem isAggregate_ofSelection (demangler : Demangler) (rules : Rules) (target : Backend.Target)
    (selection : Selection) : (ofSelection demangler rules target selection).IsAggregate :=
  ⟨demangler.demangle rules, selection.records, rfl, rfl⟩

theorem total_namespaceSizes_le (attributions : List (Attribution × Size)) :
    (namespaceSizes attributions).total ≤ (typeSizes attributions).total := by
  rw [namespaceSizes, typeSizes, SizeTable.total_collect, SizeTable.total_collect]
  apply List.Sublist.sum_le_sum
  · apply (List.filter_sublist.map Prod.snd).trans
    rw [List.map_map, List.map_map]
    exact List.Sublist.refl _
  · exact fun size _ => size.zero_le

theorem IsAggregate.total_namespaces_le {report : FileReport} (aggregate : report.IsAggregate) :
    report.namespaces.total ≤ report.totalSymbolBytes := by
  obtain ⟨attributed, records, namespaces, types⟩ := aggregate
  rw [totalSymbolBytes, namespaces, types]
  exact total_namespaceSizes_le _

end FileReport

namespace CorpusReport

theorem total_merged (tables : List SizeTable) :
    (merged tables).total = (tables.map SizeTable.total).sum := by
  rw [merged_eq_collect, SizeTable.total_collect]
  induction tables with
  | nil => rfl
  | cons table tables inductionHypothesis =>
    simp only [List.flatMap_cons, List.map_append, List.sum_append, inductionHypothesis,
      List.map_cons, List.sum_cons, SizeTable.total]

variable {corpus : CorpusReport}

theorem totalSymbolBytes_eq_sum (corpus : CorpusReport) :
    corpus.totalSymbolBytes = (corpus.files.map FileReport.totalSymbolBytes).sum := by
  rw [totalSymbolBytes, types, total_merged, List.map_map]
  rfl

theorem sum_assemblySizes (corpus : CorpusReport) :
    (corpus.assemblySizes.map Prod.snd).sum = corpus.totalFileBytes := by
  rw [assemblySizes, SizeTable.sum_ranked, SizeTable.total_collect, List.map_map]
  rfl

theorem type_le_totalSymbolBytes {row : SizeRow} (membership : row ∈ corpus.types.ranked) :
    row.2 ≤ corpus.totalSymbolBytes :=
  SizeTable.le_total (SizeTable.mem_ranked.mp membership)

theorem assembly_le_totalFileBytes {row : SizeRow} (membership : row ∈ corpus.assemblySizes) :
    row.2 ≤ corpus.totalFileBytes := by
  rw [← sum_assemblySizes]
  exact Size.le_sum (List.mem_map_of_mem membership)

theorem namespace_le_totalSymbolBytes (aggregates : ∀ report ∈ corpus.files, report.IsAggregate)
    {row : SizeRow} (membership : row ∈ corpus.namespaces.ranked) :
    row.2 ≤ corpus.totalSymbolBytes := by
  calc row.2
      ≤ corpus.namespaces.total := SizeTable.le_total (SizeTable.mem_ranked.mp membership)
    _ = (corpus.files.map fun report => report.namespaces.total).sum := by
        rw [namespaces, total_merged, List.map_map]
        rfl
    _ ≤ (corpus.files.map FileReport.totalSymbolBytes).sum := by
        apply List.sum_le_sum
        exact fun report inside => (aggregates report inside).total_namespaces_le
    _ = corpus.totalSymbolBytes := (totalSymbolBytes_eq_sum corpus).symm

/-- The total of all symbols is the sum of those of the files, and the assemblies add up to the
total of all files. No type and no assembly is larger than its total, and no namespace is, if the
reports sum up symbols. -/
theorem totals_balance (corpus : CorpusReport) :
    corpus.totalSymbolBytes = (corpus.files.map FileReport.totalSymbolBytes).sum ∧
    (corpus.assemblySizes.map Prod.snd).sum = corpus.totalFileBytes ∧
    (∀ row ∈ corpus.types.ranked, row.2 ≤ corpus.totalSymbolBytes) ∧
    (∀ row ∈ corpus.assemblySizes, row.2 ≤ corpus.totalFileBytes) ∧
    ((∀ report ∈ corpus.files, report.IsAggregate) →
      ∀ row ∈ corpus.namespaces.ranked, row.2 ≤ corpus.totalSymbolBytes) := by
  refine ⟨totalSymbolBytes_eq_sum corpus, sum_assemblySizes corpus, ?_, ?_, ?_⟩
  · exact fun row membership => type_le_totalSymbolBytes membership
  · exact fun row membership => assembly_le_totalFileBytes membership
  · exact fun aggregates row membership => namespace_le_totalSymbolBytes aggregates membership

/-- Two files of one assembly, with symbols that fill the largest count together. -/
theorem totals_balance_full :
    let large : SymbolRecord := ⟨"system_List_Add", .clamp (2 ^ 64 - 3), .function⟩
    let small : SymbolRecord := ⟨"system_List_Clear", .clamp 7, .function⟩
    let top : SymbolRecord := ⟨"List_Add", .clamp 5, .function⟩
    let target : Backend.Target := ⟨⟨"libaot-Demo.dll.so"⟩, ⟨#[0, 0, 0]⟩, .none⟩
    let report := fun records =>
      FileReport.ofSelection .casing .standard target ⟨[], some ⟨"nm", records⟩⟩
    let corpus : CorpusReport := ⟨[report [large, top], report [small]], []⟩
    (∀ report ∈ corpus.files, report.IsAggregate) ∧
    ("system", .clamp (2 ^ 64 - 1)) ∈ corpus.namespaces.ranked ∧
    Size.clamp (2 ^ 64 - 1) ≤ corpus.totalSymbolBytes ∧
    (corpus.assemblySizes.map Prod.snd).sum = .clamp 6 := by
  intro large small top target report corpus
  have aggregates : ∀ report ∈ corpus.files, report.IsAggregate := by
    intro file membership
    simp only [corpus, List.mem_cons, List.not_mem_nil, or_false] at membership
    rcases membership with rfl | rfl <;> exact FileReport.isAggregate_ofSelection ..
  have present : ("system", .clamp (2 ^ 64 - 1)) ∈ corpus.namespaces.ranked :=
    SizeTable.mem_ranked.mpr (by decide)
  have files : corpus.totalFileBytes = .clamp 6 := by decide
  obtain ⟨_, total, _, _, rows⟩ := totals_balance corpus
  exact ⟨aggregates, present, rows aggregates _ present, total.trans files⟩

end CorpusReport

end SymbolFootprint
