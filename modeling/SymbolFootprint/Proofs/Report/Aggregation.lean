import SymbolFootprint.Proofs.Demangler.Scope
import SymbolFootprint.Proofs.SizeTable.Totals
import SymbolFootprint.Report.FileReport

/-!
What the report on one file says about its symbols.

The tables of a report collect one row for each attributable record (`rowsBy`), under a key that
depends on the attribution alone. So they say exactly which keys there are and how many bytes each
of them takes (`ofSelection_exact`), in whatever order the records come. The total counts every
attributable byte once, whichever demangler attributes it (`total_of_any_demangler`).
-/

namespace SymbolFootprint

def SymbolRecord.totalBytes (records : List SymbolRecord) : Nat :=
  (records.map fun record => record.size.bytes).sum

theorem SymbolRecord.bytes_sum_sizes (records : List SymbolRecord) :
    (records.map SymbolRecord.size).sum.bytes = min (2 ^ 64 - 1) (totalBytes records) := by
  rw [Size.bytes_sum, List.map_map]
  rfl

theorem SymbolRecord.bytes_pos {record : SymbolRecord} (attributable : record.attributable = true) :
    0 < record.size.bytes := by
  simp only [SymbolRecord.attributable, Bool.and_eq_true, decide_eq_true_eq] at attributable
  exact attributable.1.1

namespace FileReport

variable (demangler : Demangler) (rules : Rules)

def attributedTo (test : Attribution → Bool) (records : List SymbolRecord) : List SymbolRecord :=
  (records.filter SymbolRecord.attributable).filter fun record =>
    test (demangler.demangle rules record.identifier)

/-- A row for each attributable record, under a key that its attribution gives. -/
def rowsBy (key : Attribution → String) (records : List SymbolRecord) : List SizeRow :=
  (attributions demangler rules records).map fun (attribution, size) => (key attribution, size)

theorem namespaces_ofSelection (target : Backend.Target) (selection : Selection) :
    (ofSelection demangler rules target selection).namespaces =
      .collect ((rowsBy demangler rules Attribution.scope selection.records).filter
        fun row => row.1 ≠ "") := rfl

theorem types_ofSelection (target : Backend.Target) (selection : Selection) :
    (ofSelection demangler rules target selection).types =
      .collect (rowsBy demangler rules Attribution.typeKey selection.records) := rfl

theorem symbolCount_ofSelection (target : Backend.Target) (selection : Selection) :
    (ofSelection demangler rules target selection).symbolCount =
      (selection.records.filter SymbolRecord.attributable).length :=
  List.length_map ..

theorem rowsBy_eq_map (key : Attribution → String) (records : List SymbolRecord) :
    rowsBy demangler rules key records =
      (records.filter SymbolRecord.attributable).map fun record =>
        (key (demangler.demangle rules record.identifier), record.size) := by
  rw [rowsBy, attributions, List.map_map]
  rfl

theorem rowsBy_append (key : Attribution → String) (first second : List SymbolRecord) :
    rowsBy demangler rules key (first ++ second) =
      rowsBy demangler rules key first ++ rowsBy demangler rules key second := by
  rw [rowsBy_eq_map, rowsBy_eq_map, rowsBy_eq_map, List.filter_append, List.map_append]

theorem rowsBy_perm (key : Attribution → String) {first second : List SymbolRecord}
    (perm : (first.filter SymbolRecord.attributable).Perm
      (second.filter SymbolRecord.attributable)) :
    (rowsBy demangler rules key first).Perm (rowsBy demangler rules key second) := by
  rw [rowsBy_eq_map, rowsBy_eq_map]
  exact perm.map _

theorem sizes_rowsBy (key : Attribution → String) (records : List SymbolRecord) :
    (rowsBy demangler rules key records).map Prod.snd =
      (records.filter SymbolRecord.attributable).map SymbolRecord.size := by
  rw [rowsBy_eq_map, List.map_map]
  rfl

theorem mem_keys_rowsBy {key : Attribution → String} {records : List SymbolRecord}
    {name : String} :
    name ∈ (rowsBy demangler rules key records).map Prod.fst ↔
      ∃ record ∈ records, record.attributable = true ∧
        key (demangler.demangle rules record.identifier) = name := by
  rw [rowsBy_eq_map, List.map_map]
  simp only [List.mem_map, List.mem_filter, Function.comp_apply, and_assoc]

theorem sizesUnder_rowsBy (key : Attribution → String) (records : List SymbolRecord)
    (name : String) :
    SizeTable.sizesUnder name (rowsBy demangler rules key records) =
      (attributedTo demangler rules (fun attribution => key attribution = name) records).map
        SymbolRecord.size := by
  rw [rowsBy_eq_map, SizeTable.sizesUnder, List.filter_map, List.map_map]
  rfl

/-- A table of rows by a key has the names that attributable records have under this key, and gives
each name the sum of their sizes, up to the largest count. -/
theorem find?_collect_rowsBy {key : Attribution → String} {records : List SymbolRecord}
    {name : String} {size : Size} :
    (SizeTable.collect (rowsBy demangler rules key records)).find? name = some size ↔
      (∃ record ∈ records, record.attributable = true ∧
        key (demangler.demangle rules record.identifier) = name) ∧
      size.bytes = min (2 ^ 64 - 1) (SymbolRecord.totalBytes
        (attributedTo demangler rules (fun attribution => key attribution = name) records)) := by
  rw [SizeTable.find?_collect, ← mem_keys_rowsBy, sizesUnder_rowsBy, ← SymbolRecord.bytes_sum_sizes]
  by_cases present : name ∈ (rowsBy demangler rules key records).map Prod.fst
  · simp only [present, if_true, Option.some.injEq, true_and, Size.ext_iff, eq_comm]
  · simp only [present, if_false, reduceCtorEq, false_and]

theorem pos_of_find?_collect_rowsBy {key : Attribution → String} {records : List SymbolRecord}
    {name : String} {size : Size}
    (found : (SizeTable.collect (rowsBy demangler rules key records)).find? name = some size) :
    0 < size.bytes := by
  obtain ⟨⟨record, membership, attributable, named⟩, bytes⟩ :=
    (find?_collect_rowsBy demangler rules).mp found
  have selected : record ∈
      attributedTo demangler rules (fun attribution => key attribution = name) records := by
    simp [attributedTo, membership, attributable, named]
  have part := Size.bytes_le_bytes_sum (List.mem_map_of_mem (f := SymbolRecord.size) selected)
  rw [SymbolRecord.bytes_sum_sizes, ← bytes] at part
  exact (SymbolRecord.bytes_pos attributable).trans_le part

/-- The table of namespaces is the one by scope without the empty name. -/
theorem find?_namespaces (target : Backend.Target) (selection : Selection) {name : String} :
    (ofSelection demangler rules target selection).namespaces.find? name =
      if name ≠ "" then
        (SizeTable.collect (rowsBy demangler rules Attribution.scope selection.records)).find? name
      else none := by
  rw [namespaces_ofSelection,
    SizeTable.find?_collect_filter fun name => decide (name ≠ "")]
  simp only [decide_eq_true_eq]

/-- Only the attributable records matter to a report, and not their order. -/
theorem ofSelection_congr (target : Backend.Target) {first second : Selection}
    (perm : (first.records.filter SymbolRecord.attributable).Perm
      (second.records.filter SymbolRecord.attributable))
    (backend : first.found.map Found.backend = second.found.map Found.backend) :
    ofSelection demangler rules target first = ofSelection demangler rules target second := by
  have count : (attributions demangler rules first.records).length =
      (attributions demangler rules second.records).length := by
    rw [attributions, attributions, List.length_map, List.length_map, perm.length_eq]
  have scopes := SizeTable.collect_perm
    ((rowsBy_perm demangler rules Attribution.scope perm).filter fun row => row.1 ≠ "")
  have types := SizeTable.collect_perm (rowsBy_perm demangler rules Attribution.typeKey perm)
  unfold ofSelection
  rw [FileReport.mk.injEq]
  exact ⟨rfl, rfl, rfl, rfl, count, scopes, types, backend⟩

/-- The tables of a report hold exactly the names that attributable records have, each with the sum
of their sizes up to the largest count. Neither the order of the records matters nor what else
stands among them. -/
theorem ofSelection_exact (target : Backend.Target) (selection : Selection) :
    let records := selection.records
    let report := ofSelection demangler rules target selection
    let bytesWhere := fun test =>
      min (2 ^ 64 - 1) (SymbolRecord.totalBytes (attributedTo demangler rules test records))
    (∀ name size, report.namespaces.find? name = some size ↔
      name ≠ "" ∧
      (∃ record ∈ records, record.attributable = true ∧
        (demangler.demangle rules record.identifier).scope = name) ∧
      size.bytes = bytesWhere fun attribution => attribution.scope = name) ∧
    (∀ name size, report.types.find? name = some size ↔
      (∃ record ∈ records, record.attributable = true ∧
        (demangler.demangle rules record.identifier).typeKey = name) ∧
      size.bytes = bytesWhere fun attribution => attribution.typeKey = name) ∧
    report.symbolCount = (records.filter SymbolRecord.attributable).length ∧
    (∀ row ∈ report.namespaces.rows, row.1 ≠ "" ∧ 0 < row.2.bytes) ∧
    (∀ row ∈ report.types.rows, 0 < row.2.bytes) ∧
    ∀ (inserted : List SymbolRecord) (other : Selection),
      (∀ record ∈ inserted, record.attributable = false) →
      other.records.Perm (inserted ++ records) →
      other.found.map Found.backend = selection.found.map Found.backend →
      ofSelection demangler rules target other = report := by
  intro records report bytesWhere
  refine ⟨?_, ?_, symbolCount_ofSelection demangler rules target selection, ?_, ?_, ?_⟩
  · intro name size
    rw [find?_namespaces, ← find?_collect_rowsBy]
    by_cases empty : name = ""
    · simp [empty]
    · simp [empty, records]
  · intro name size
    exact find?_collect_rowsBy demangler rules
  · rintro ⟨name, size⟩ membership
    have found := SizeTable.find?_eq_some_iff.mpr membership
    rw [find?_namespaces] at found
    split at found
    · next nonempty => exact ⟨nonempty, pos_of_find?_collect_rowsBy demangler rules found⟩
    · cases found
  · rintro ⟨name, size⟩ membership
    exact pos_of_find?_collect_rowsBy demangler rules (SizeTable.find?_eq_some_iff.mpr membership)
  · intro inserted other ignored perm backend
    refine ofSelection_congr demangler rules target ?_ backend
    have dropped : inserted.filter SymbolRecord.attributable = [] := by
      rw [List.filter_eq_nil_iff]
      intro record membership
      simp [ignored record membership]
    have kept := perm.filter SymbolRecord.attributable
    rwa [List.filter_append, dropped, List.nil_append] at kept

/-- Two records in either order, with a record of no bytes between them. -/
theorem ofSelection_exact_reordered :
    let first : SymbolRecord := ⟨"System_Object_Equals", .clamp 40, .function⟩
    let second : SymbolRecord := ⟨"System_Object_ToString", .clamp 7, .object⟩
    let empty : SymbolRecord := ⟨"System_Object_Finalize", .clamp 0, .function⟩
    let target : Backend.Target := ⟨⟨"libaot-Demo.dll.so"⟩, .empty, .none⟩
    let listed := fun records => (⟨[], some ⟨"nm", records⟩⟩ : Selection)
    empty.attributable = false ∧
    [second, empty, first].Perm ([empty] ++ [first, second]) ∧
    ofSelection .roots .standard target (listed [second, empty, first]) =
      ofSelection .roots .standard target (listed [first, second]) := by
  intro first second empty target listed
  have ignored : empty.attributable = false := by decide
  have perm : [second, empty, first].Perm ([empty] ++ [first, second]) :=
    (List.Perm.swap empty second [first]).trans ((List.Perm.swap first second []).cons empty)
  obtain ⟨_, _, _, _, _, inserting⟩ :=
    ofSelection_exact .roots .standard target (listed [first, second])
  refine ⟨ignored, perm, inserting [empty] (listed [second, empty, first]) ?_ perm rfl⟩
  intro record membership
  rw [List.mem_singleton.mp membership]
  exact ignored

theorem totalSymbolBytes_ofSelection (target : Backend.Target) (selection : Selection) :
    (ofSelection demangler rules target selection).totalSymbolBytes =
      ((selection.records.filter SymbolRecord.attributable).map SymbolRecord.size).sum := by
  rw [totalSymbolBytes, types_ofSelection, SizeTable.total_collect, sizes_rowsBy]

theorem total_namespaces_add (target : Backend.Target) (selection : Selection) :
    (ofSelection demangler rules target selection).namespaces.total +
        ((attributedTo demangler rules (fun attribution => attribution.scope = "")
          selection.records).map SymbolRecord.size).sum =
      (ofSelection demangler rules target selection).totalSymbolBytes := by
  rw [totalSymbolBytes_ofSelection, namespaces_ofSelection, SizeTable.total_collect, rowsBy_eq_map,
    List.filter_map, List.map_map, attributedTo]
  simp only [ne_eq, decide_not]
  exact Size.sum_filter_not_add_sum_filter _ _ _

/-- Every attributable byte counts once, whichever demangler attributes it: the number of symbols
and the total are the same, the namespaces and the symbols without one make up the total, and by
roots there are no symbols without one. -/
theorem total_of_any_demangler (first second : Demangler) (firstRules secondRules : Rules)
    (target : Backend.Target) (selection : Selection) :
    let records := selection.records
    let firstReport := ofSelection first firstRules target selection
    let secondReport := ofSelection second secondRules target selection
    firstReport.symbolCount = secondReport.symbolCount ∧
    firstReport.totalSymbolBytes = secondReport.totalSymbolBytes ∧
    firstReport.totalSymbolBytes.bytes =
      min (2 ^ 64 - 1) (SymbolRecord.totalBytes (records.filter SymbolRecord.attributable)) ∧
    (∀ demangler rules,
      let report := ofSelection demangler rules target selection
      report.namespaces.total +
          ((attributedTo demangler rules (fun attribution => attribution.scope = "")
            records).map SymbolRecord.size).sum = report.totalSymbolBytes) ∧
    ∀ rules : Rules, "" ∉ rules.roots → (∀ entry ∈ rules.reserved, entry.bucket ≠ "") →
      let report := ofSelection .roots rules target selection
      report.namespaces.total = report.totalSymbolBytes := by
  intro records firstReport secondReport
  refine ⟨?_, ?_, ?_, ?_, ?_⟩
  · exact (symbolCount_ofSelection ..).trans (symbolCount_ofSelection ..).symm
  · exact (totalSymbolBytes_ofSelection ..).trans (totalSymbolBytes_ofSelection ..).symm
  · rw [totalSymbolBytes_ofSelection, SymbolRecord.bytes_sum_sizes]
  · intro demangler rules
    exact total_namespaces_add demangler rules target selection
  · intro rules roots buckets report
    have complete := total_namespaces_add .roots rules target selection
    have named : attributedTo .roots rules (fun attribution => attribution.scope = "") records =
        [] := by
      rw [attributedTo, List.filter_eq_nil_iff]
      intro record _
      simpa using Demangler.scope_ne_empty_of_roots roots buckets record.identifier
    rw [named, List.map_nil, List.sum_nil, Size.add_zero] at complete
    exact complete

/-- The usual rules have no empty root and no empty bucket. -/
theorem total_of_any_demangler_standard :
    let target : Backend.Target := ⟨⟨"libaot-Demo.dll.so"⟩, .empty, .none⟩
    let first : SymbolRecord := ⟨"System_Object_Equals", .clamp 40, .function⟩
    let second : SymbolRecord := ⟨"main", .clamp 7, .object⟩
    let selection : Selection := ⟨[], some ⟨"nm", [first, second]⟩⟩
    let byRoots := ofSelection .roots .standard target selection
    let byCase := ofSelection .casing .standard target selection
    "" ∉ Rules.standard.roots ∧
    (∀ entry ∈ Rules.standard.reserved, entry.bucket ≠ "") ∧
    byRoots.totalSymbolBytes = byCase.totalSymbolBytes ∧
    byRoots.totalSymbolBytes.bytes = 47 ∧
    byRoots.namespaces.total = byRoots.totalSymbolBytes := by
  intro target first second selection byRoots byCase
  have roots : "" ∉ Rules.standard.roots := by decide
  have buckets : ∀ entry ∈ Rules.standard.reserved, entry.bucket ≠ "" := by decide
  obtain ⟨_, same, total, _, complete⟩ :=
    total_of_any_demangler .roots .casing .standard .standard target selection
  have bytes : SymbolRecord.totalBytes
      (selection.records.filter SymbolRecord.attributable) = 47 := by decide
  rw [bytes] at total
  exact ⟨roots, buckets, same, total, complete .standard roots buckets⟩

end FileReport

end SymbolFootprint
