import Mathlib.Tactic.Ring
import SymbolFootprint.Fixture.Generated
import SymbolFootprint.Proofs.Analysis.Accounting
import SymbolFootprint.Proofs.Analysis.Fallback
import SymbolFootprint.Proofs.Demangler.Scope
import SymbolFootprint.Proofs.Demangler.Segments
import SymbolFootprint.Proofs.Fixture.RoundTrip
import SymbolFootprint.Proofs.SizeTable.Merging
import SymbolFootprint.Proofs.SizeTable.Ranking

/-!
The report on the file with generated classes.

A file that was built is read as its symbols (`analyze_built`), and the demangler takes the names of
the generated classes apart at their root (`attribution_classSymbols`). Classes are told apart by
the digits of their numbers, so each has a row of its own among the types, and these rows are the
largest ones (`rows_types_perm`). With that, the whole report is known for every number of classes
(`generatedClasses_attributed`).
-/

namespace SymbolFootprint

namespace Fixture

section Built

variable {symbols : List Symbol} {analysis : Analysis} {machine : Machine} {path : Path}

theorem attributions_symbols (demangler : Demangler) (rules : Rules)
    (visible : ∀ symbol ∈ symbols, symbol.name ≠ "" ∧ 0 < symbol.size) :
    FileReport.attributions demangler rules (symbols.filterMap Symbol.record?) =
      symbols.map fun symbol => (demangler.demangle rules symbol.name, .clamp symbol.size) := by
  induction symbols with
  | nil => rfl
  | cons symbol rest inductionHypothesis =>
    obtain ⟨named, sized⟩ := visible symbol (List.mem_cons_self ..)
    have later := inductionHypothesis fun other inside =>
      visible other (List.mem_cons_of_mem _ inside)
    have record : symbol.record? = some ⟨symbol.name, .clamp symbol.size, symbol.kind.symbolKind⟩ :=
      if_neg named
    have attributable : SymbolRecord.attributable
        ⟨symbol.name, .clamp symbol.size, symbol.kind.symbolKind⟩ = true := by
      have positive : (0 : Size) < .clamp symbol.size := by
        rw [Size.lt_iff, Size.bytes_clamp, Size.bytes_zero]
        omega
      cases kind : symbol.kind <;>
        simp [SymbolRecord.attributable, positive, named, Kind.symbolKind]
    rw [List.filterMap_cons_some record, FileReport.attributions,
      List.filter_cons_of_pos attributable, List.map_cons, List.map_cons, ← later]
    rfl

theorem select_built (machine : Machine) (path : Path)
    (addressable : (⟨symbols⟩ : Fixture).Addressable)
    (noZero : ∀ symbol ∈ symbols, '\x00' ∉ symbol.name.toList)
    (only : analysis.order = [.structured]) {file : ByteArray}
    (content : file.data.toList = toBytes ⟨symbols⟩) :
    analysis.select machine ⟨path, file, machine.reader⟩ =
      ⟨[], some ⟨"structured", symbols.filterMap Symbol.record?⟩⟩ := by
  have records := records_read addressable content noZero
  have answer : Backend.ask machine analysis.backends ⟨path, file, machine.reader⟩ .structured =
      .ok ⟨"structured", symbols.filterMap Symbol.record?⟩ := by
    rw [Backend.ask, Backend.records_structured,
      Backend.read_of_ok (ofFile_toBytes addressable content machine.reader), records]
    rfl
  simp only [Analysis.select, only, select, answer]

/-- A file that was built has a report that sums up its symbols. -/
theorem analyze_built (addressable : (⟨symbols⟩ : Fixture).Addressable)
    (noZero : ∀ symbol ∈ symbols, '\x00' ∉ symbol.name.toList)
    (visible : ∀ symbol ∈ symbols, symbol.name ≠ "" ∧ 0 < symbol.size)
    (only : analysis.order = [.structured]) {file : ByteArray}
    (content : file.data.toList = toBytes ⟨symbols⟩)
    (readable : machine.files.read path = .ok file) :
    let attributions := symbols.map fun symbol =>
      (analysis.demangler.demangle analysis.rules symbol.name, Size.clamp symbol.size)
    ∃ report, analysis.analyze machine [path] = .done (.ok (.ofFiles [report])) ∧
      report.backend = some "structured" ∧
      report.symbolCount = symbols.length ∧
      report.namespaces = FileReport.namespaceSizes attributions ∧
      report.types = FileReport.typeSizes attributions := by
  have asked := select_built machine path addressable noZero only content
  have attributed := attributions_symbols analysis.demangler analysis.rules visible
  have analyzed : analysis.analyzeFile machine path =
      .done (.ok (.ofSelection analysis.demangler analysis.rules ⟨path, file, machine.reader⟩
        ⟨[], some ⟨"structured", symbols.filterMap Symbol.record?⟩⟩)) := by
    rw [Analysis.analyzeFile, readable]
    dsimp only
    rw [Analysis.analyzeContent, asked]
    exact Analysis.conclude_of_found
      (fun overflow => not_isOversized addressable.fileFits content overflow.2) []
  refine ⟨_, (Analysis.Accounts.report analyzed .nil).analyze_eq, rfl, ?_⟩
  simp only [FileReport.ofSelection, Selection.records, Option.elim_some, attributed,
    List.length_map, and_self]

end Built

section Names

theorem not_mem_decimal {c : Char} (noDigit : c.isDigit = false) (number : ℕ) :
    c ∉ (toString number).toList := by
  rw [Nat.toString_eq_ofList_toDigits, String.toList_ofList]
  intro membership
  rw [Nat.isDigit_of_mem_toDigits (by decide) (by decide) membership] at noDigit
  cases noDigit

theorem append_ne_append {first second : String} (apart : ¬ first.toList <+: second.toList)
    (otherApart : ¬ second.toList <+: first.toList) (rest others : String) :
    first ++ rest ≠ second ++ others := by
  intro same
  have start : first.toList <+: (first ++ rest).toList := by
    rw [String.toList_append]
    exact List.prefix_append _ _
  have otherStart : second.toList <+: (first ++ rest).toList := by
    rw [same, String.toList_append]
    exact List.prefix_append _ _
  rcases List.prefix_or_prefix_of_prefix start otherStart with shorter | longer
  · exact apart shorter
  · exact otherApart longer

theorem numbered_injective (start : String) :
    Function.Injective fun number : ℕ => start ++ toString number := by
  intro first second same
  have digits := (String.append_right_inj start).mp same
  simp only [Nat.toString_eq_ofList_toDigits, String.ofList_inj] at digits
  rw [← Nat.ofDigitChars_ten_toDigits (n := first), digits, Nat.ofDigitChars_ten_toDigits]

theorem not_mem_numbered {c : Char} (noDigit : c.isDigit = false) {start : String}
    (absent : c ∉ start.toList) (number : ℕ) : c ∉ (start ++ toString number).toList := by
  rw [String.toList_append, List.mem_append, not_or]
  exact ⟨absent, not_mem_decimal noDigit number⟩

def generatedRules : Rules :=
  Rules.standard.withRoot "GeneratedClasses"

theorem demangle_generated {type member : String} (noDelimiter : '_' ∉ type.toList)
    (noDelimiterInside : '_' ∉ member.toList) :
    Demangler.roots.demangle generatedRules ("GeneratedClasses_" ++ type ++ "_" ++ member) =
      ⟨"GeneratedClasses", type, member⟩ := by
  have joined : generatedRules.joined ["GeneratedClasses", type, member] =
      "GeneratedClasses_" ++ type ++ "_" ++ member := by
    rw [← String.toList_inj, Rules.joined, Rules.toList_joinedBy]
    simp [Text.join, generatedRules, Rules.withRoot, Rules.standard, Rules.empty]
  have cut : generatedRules.segments ("GeneratedClasses_" ++ type ++ "_" ++ member) =
      ["GeneratedClasses", type, member] := by
    rw [← joined]
    apply Rules.segments_joined (List.cons_ne_nil _ _)
    simp only [List.forall_mem_cons]
    exact ⟨by decide, noDelimiter, noDelimiterInside, by simp⟩
  have unreserved :
      ¬ generatedRules.Reserves ("GeneratedClasses_" ++ type ++ "_" ++ member) := by
    simp [Rules.Reserves, generatedRules, Rules.withRoot, Rules.standard, Rules.empty]
  rw [Demangler.demangle_of_unreserved _ unreserved (by simp [cut]), Demangler.structured?, cut]
  rfl

def attribution (symbol : Symbol) : Attribution :=
  Demangler.roots.demangle generatedRules symbol.name

/-- The symbols besides the classes belong to the runtime, to thunks and to the base library. -/
theorem attribution_commonSymbols : commonSymbols.map attribution =
    [.bucket "[Runtime]" "mono_aot_GeneratedClasses_init",
      .bucket "[Runtime]" "mono_aot_file_info", .bucket "[Runtime]" "plt_System_Object__ctor",
      .bucket "[Thunks]" "temp_thunk_0", ⟨"System.Collections.Generic.List", "1", "Add"⟩,
      ⟨"System.Collections", "Generic", "List_1"⟩, ⟨"System.Threading.Tasks", "Task", "Delay"⟩] := by
  decide

/-- The symbols of a class belong to the class and to a structure beside it. -/
theorem attribution_classSymbols (number : ℕ) :
    (classSymbols number).map attribution =
      [⟨"GeneratedClasses", s!"SomeClass{number}", "Calculate"⟩,
        ⟨"GeneratedClasses", s!"SomeClass{number}", "Dispose"⟩,
        ⟨"GeneratedClasses", s!"DummyStruct{number}", "Value"⟩] := by
  have classAbsent : '_' ∉ ("SomeClass" ++ toString number).toList :=
    not_mem_numbered (by decide) (by decide) number
  have structAbsent : '_' ∉ ("DummyStruct" ++ toString number).toList :=
    not_mem_numbered (by decide) (by decide) number
  have name (start member : String) :
      "GeneratedClasses_" ++ start ++ toString number ++ ("_" ++ member) =
        "GeneratedClasses_" ++ (start ++ toString number) ++ "_" ++ member := by
    simp only [String.append_assoc]
  have calculate : s!"GeneratedClasses_SomeClass{number}_Calculate" = _ :=
    name "SomeClass" "Calculate"
  have dispose : s!"GeneratedClasses_SomeClass{number}_Dispose" = _ := name "SomeClass" "Dispose"
  have value : s!"GeneratedClasses_DummyStruct{number}_Value" = _ := name "DummyStruct" "Value"
  simp only [classSymbols, attribution, List.map_cons, List.map_nil, calculate, dispose, value]
  rw [demangle_generated classAbsent (by decide), demangle_generated classAbsent (by decide),
    demangle_generated structAbsent (by decide)]
  rfl

end Names

section Sizes

theorem sum_classSymbols (number : ℕ) :
    ((classSymbols number).map Symbol.size).sum = 228 + number := by
  simp only [classSymbols, List.map_cons, List.map_nil, List.sum_cons, List.sum_nil]
  omega

theorem sum_classes (count : ℕ) :
    (((List.range count).flatMap fun index => classSymbols (index + 1)).map Symbol.size).sum =
      228 * count + count * (count + 1) / 2 := by
  induction count with
  | zero => rfl
  | succ count inductionHypothesis =>
    have next : (count + 1) * (count + 1 + 1) = count * (count + 1) + 2 * (count + 1) := by ring
    rw [List.range_succ, List.flatMap_append, List.flatMap_singleton, List.map_append,
      List.sum_append, inductionHypothesis, sum_classSymbols, next]
    omega

theorem totalSize_generatedClasses (count : ℕ) :
    (generatedClasses count).totalSize = 376 + 228 * count + count * (count + 1) / 2 := by
  have common : (commonSymbols.map Symbol.size).sum = 376 := by decide
  rw [totalSize_eq_sum, generatedClasses, List.map_append, List.sum_append, common,
    sum_classes, add_assoc]

theorem symbolCount_generatedClasses (count : ℕ) :
    (generatedClasses count).symbolCount = 7 + 3 * count := by
  rw [symbolCount, generatedClasses, List.length_append, List.length_flatMap]
  simp [commonSymbols, classSymbols, mul_comm]

theorem count_lt_of_namesFit {count : ℕ} (namesFit :
    ((generatedClasses count).symbols.map fun symbol => (nameBytes symbol.name).length + 1).sum <
      2 ^ 32) : count < 2 ^ 32 := by
  have least := List.length_le_sum_of_one_le
    ((generatedClasses count).symbols.map fun symbol => (nameBytes symbol.name).length + 1)
    (by simp)
  have symbols := symbolCount_generatedClasses count
  rw [List.length_map] at least
  rw [symbolCount] at symbols
  omega

theorem totalSize_lt_of_lt {count : ℕ} (few : count < 2 ^ 32) :
    376 + 228 * count + count * (count + 1) / 2 < 2 ^ 63 + 2 ^ 42 := by
  have product : count * (count + 1) ≤ 2 ^ 32 * 2 ^ 32 := Nat.mul_le_mul few.le few
  omega

theorem addressable_generatedClasses {count : ℕ} (namesFit :
    ((generatedClasses count).symbols.map fun symbol => (nameBytes symbol.name).length + 1).sum <
      2 ^ 32) : (generatedClasses count).Addressable := by
  apply addressable_of_fits _ namesFit
  have few := count_lt_of_namesFit namesFit
  have size := totalSize_lt_of_lt few
  have overhead := (generatedClasses count).overhead_le
  rw [symbolCount_generatedClasses] at overhead
  rw [totalSize_generatedClasses]
  omega

end Sizes

section Namespaces

variable {count : ℕ}

def scopeRow (symbol : Symbol) : SizeRow :=
  ((attribution symbol).scope, .clamp symbol.size)

theorem scopeRow_commonSymbols : commonSymbols.map scopeRow =
    [("[Runtime]", .clamp 32), ("[Runtime]", .clamp 64), ("[Runtime]", .clamp 16),
      ("[Thunks]", .clamp 8), ("System.Collections.Generic.List", .clamp 120),
      ("System.Collections", .clamp 40), ("System.Threading.Tasks", .clamp 96)] := by
  have attributed := attribution_commonSymbols
  simp only [commonSymbols, List.map_cons, List.map_nil, List.cons.injEq, and_true] at attributed
  simp only [commonSymbols, List.map_cons, List.map_nil, scopeRow, attributed, Attribution.bucket]

theorem scope_classes {symbol : Symbol}
    (membership : symbol ∈ (List.range count).flatMap fun index => classSymbols (index + 1)) :
    (attribution symbol).scope = "GeneratedClasses" := by
  obtain ⟨index, _, inside⟩ := List.mem_flatMap.mp membership
  have attributed := List.mem_map_of_mem (f := attribution) inside
  rw [attribution_classSymbols] at attributed
  simp only [List.mem_cons, List.not_mem_nil, or_false] at attributed
  rcases attributed with same | same | same <;> rw [same]

theorem fst_scopeRow_classes {row : SizeRow}
    (membership : row ∈
      ((List.range count).flatMap fun index => classSymbols (index + 1)).map scopeRow) :
    row.1 = "GeneratedClasses" := by
  obtain ⟨symbol, inside, rfl⟩ := List.mem_map.mp membership
  exact scope_classes inside

theorem namespaceSizes_generated (symbols : List Symbol) :
    FileReport.namespaceSizes
        (symbols.map fun symbol => (attribution symbol, .clamp symbol.size)) =
      .collect (symbols.map scopeRow) := by
  rw [FileReport.namespaceSizes, List.map_map, List.filter_eq_self.mpr]
  · rfl
  · intro row membership
    obtain ⟨symbol, _, rfl⟩ := List.mem_map.mp membership
    exact decide_eq_true (Demangler.scope_ne_empty_of_roots (by decide) (by decide) symbol.name)

theorem find?_namespaces_classes (few : count < 2 ^ 32) :
    ((SizeTable.collect ((generatedClasses count).symbols.map scopeRow)).find?
        "GeneratedClasses").map Size.bytes =
      if count = 0 then none else some (228 * count + count * (count + 1) / 2) := by
  split
  · next none =>
    subst none
    rw [generatedClasses, List.map_append, scopeRow_commonSymbols]
    decide
  · next some =>
    have absent : "GeneratedClasses" ∉ (commonSymbols.map scopeRow).map Prod.fst := by
      rw [scopeRow_commonSymbols]
      decide
    have nonempty : ((List.range count).flatMap fun index =>
        classSymbols (index + 1)).map scopeRow ≠ [] := by
      simpa [classSymbols] using ⟨0, Nat.pos_of_ne_zero some⟩
    have size := totalSize_lt_of_lt few
    rw [generatedClasses, List.map_append, SizeTable.collect_perm List.perm_append_comm,
      SizeTable.find?_collect_append_of_absent absent,
      SizeTable.find?_collect_of_single_key nonempty fun _ => fst_scopeRow_classes, Option.map_some,
      List.map_map]
    have sizes : Prod.snd ∘ scopeRow = Size.clamp ∘ Symbol.size := rfl
    rw [sizes, ← List.map_map, Size.bytes_sum_clamp, sum_classes]
    congr 1
    omega

/-- The namespaces of the other symbols do not depend on the classes. -/
theorem find?_namespaces_common {key : String} (other : key ≠ "GeneratedClasses") :
    (SizeTable.collect ((generatedClasses count).symbols.map scopeRow)).find? key =
      (SizeTable.collect (commonSymbols.map scopeRow)).find? key := by
  rw [generatedClasses, List.map_append, SizeTable.find?_collect_append_of_absent]
  intro membership
  obtain ⟨row, inside, same⟩ := List.mem_map.mp membership
  exact other (same.symm.trans (fst_scopeRow_classes inside))

end Namespaces

section Types

variable {count : ℕ}

def typeRow (symbol : Symbol) : SizeRow :=
  ((attribution symbol).typeKey, .clamp symbol.size)

theorem typeRow_commonSymbols : commonSymbols.map typeRow =
    [("[Runtime].[Runtime]", .clamp 32), ("[Runtime].[Runtime]", .clamp 64),
      ("[Runtime].[Runtime]", .clamp 16), ("[Thunks].[Thunks]", .clamp 8),
      ("System.Collections.Generic.List.1", .clamp 120),
      ("System.Collections.Generic", .clamp 40),
      ("System.Threading.Tasks.Task", .clamp 96)] := by
  have attributed := attribution_commonSymbols
  simp only [commonSymbols, List.map_cons, List.map_nil, List.cons.injEq, and_true] at attributed
  simp only [commonSymbols, List.map_cons, List.map_nil, typeRow, attributed]
  decide

def classRow (number : ℕ) : SizeRow :=
  (s!"GeneratedClasses.SomeClass{number}", .clamp (224 + number))

def structRow (number : ℕ) : SizeRow :=
  (s!"GeneratedClasses.DummyStruct{number}", .clamp 4)

def commonRows : List SizeRow :=
  [("[Runtime].[Runtime]", .clamp 112), ("[Thunks].[Thunks]", .clamp 8),
    ("System.Collections.Generic.List.1", .clamp 120),
    ("System.Collections.Generic", .clamp 40), ("System.Threading.Tasks.Task", .clamp 96)]

def classRows (count : ℕ) : List SizeRow :=
  ((List.range count).map fun index => classRow (index + 1)).reverse

def otherRows (count : ℕ) : List SizeRow :=
  commonRows ++ (List.range count).map fun index => structRow (index + 1)

theorem typeSizes_generated (symbols : List Symbol) :
    FileReport.typeSizes (symbols.map fun symbol => (attribution symbol, .clamp symbol.size)) =
      .collect (symbols.map typeRow) := by
  rw [FileReport.typeSizes, List.map_map]
  rfl

theorem collect_typeRow_classSymbols (number : ℕ) :
    SizeTable.collect ((classSymbols number).map typeRow) =
      .collect [classRow number, structRow number] := by
  have attributed := attribution_classSymbols number
  simp only [classSymbols, List.map_cons, List.map_nil, List.cons.injEq, and_true] at attributed
  obtain ⟨calculate, dispose, value⟩ := attributed
  have key (type member : String) : Attribution.typeKey ⟨"GeneratedClasses", type, member⟩ =
      "GeneratedClasses." ++ type := rfl
  have sizes : Size.clamp (200 + number) + Size.clamp 24 = Size.clamp (224 + number) := by
    ext
    simp only [Size.bytes_add, Size.bytes_clamp]
    omega
  simp only [classSymbols, List.map_cons, List.map_nil, typeRow, calculate, dispose, value, key,
    SizeTable.collect_cons_cons, sizes]
  rfl

theorem typeTable_eq (count : ℕ) :
    SizeTable.collect ((generatedClasses count).symbols.map typeRow) =
      .collect (classRows count ++ otherRows count) := by
  have common : SizeTable.collect (commonSymbols.map typeRow) = .collect commonRows := by
    rw [typeRow_commonSymbols]
    decide
  have classes := SizeTable.collect_flatMap_congr
    (fun index => collect_typeRow_classSymbols (index + 1)) (List.range count)
  rw [generatedClasses, List.map_append, List.map_flatMap, ← SizeTable.merge_collect_collect,
    common, classes, SizeTable.merge_collect_collect]
  apply SizeTable.collect_perm
  have rows := List.map_append_flatMap_perm (List.range count)
    (fun index => classRow (index + 1)) fun index => [structRow (index + 1)]
  rw [← List.map_eq_flatMap] at rows
  apply (rows.symm.append_left commonRows).trans
  apply (List.perm_append_comm_assoc ..).trans
  exact (List.reverse_perm _).symm.append_right _

theorem mem_classRows {row : SizeRow} :
    row ∈ classRows count ↔ ∃ index < count, row = classRow (index + 1) := by
  simp only [classRows, List.mem_reverse, List.mem_map, List.mem_range, eq_comm]

theorem mem_otherRows {row : SizeRow} :
    row ∈ otherRows count ↔
      row ∈ commonRows ∨ ∃ index < count, row = structRow (index + 1) := by
  simp only [otherRows, List.mem_append, List.mem_map, List.mem_range, eq_comm]

theorem nodup_classRows : ((classRows count).map Prod.fst).Nodup := by
  rw [classRows, List.map_reverse, List.nodup_reverse, List.map_map]
  apply List.nodup_range.map
  exact (numbered_injective "GeneratedClasses.SomeClass").comp (add_left_injective 1)

theorem nodup_structRows :
    (((List.range count).map fun index => structRow (index + 1)).map Prod.fst).Nodup := by
  rw [List.map_map]
  apply List.nodup_range.map
  exact (numbered_injective "GeneratedClasses.DummyStruct").comp (add_left_injective 1)

theorem fst_commonRow_ne {row : SizeRow} (membership : row ∈ commonRows) (rest : String) :
    row.1 ≠ "GeneratedClasses." ++ rest := by
  have apart : ∀ row ∈ commonRows, ¬ row.1.toList <+: "GeneratedClasses.".toList ∧
      ¬ "GeneratedClasses.".toList <+: row.1.toList := by decide
  obtain ⟨shorter, longer⟩ := apart row membership
  rw [← String.append_empty (s := row.1)]
  exact append_ne_append shorter longer "" rest

theorem fst_classRow (number : ℕ) :
    (classRow number).1 = "GeneratedClasses." ++ ("SomeClass" ++ toString number) := by
  rw [← String.append_assoc]
  rfl

theorem fst_structRow (number : ℕ) :
    (structRow number).1 = "GeneratedClasses." ++ ("DummyStruct" ++ toString number) := by
  rw [← String.append_assoc]
  rfl

theorem nodup_rows : ((classRows count ++ otherRows count).map Prod.fst).Nodup := by
  rw [otherRows, List.map_append, List.map_append, List.nodup_append, List.nodup_append]
  refine ⟨nodup_classRows, ⟨by decide, nodup_structRows, ?_⟩, ?_⟩
  · rw [List.forall_mem_map]
    intro row membership key inside
    obtain ⟨_, entry, rfl⟩ := List.mem_map.mp inside
    obtain ⟨index, _, rfl⟩ := List.mem_map.mp entry
    rw [fst_structRow]
    exact fst_commonRow_ne membership _
  · rw [List.forall_mem_map]
    intro row membership key inside
    obtain ⟨number, _, rfl⟩ := mem_classRows.mp membership
    rw [← List.map_append, ← otherRows, List.mem_map] at inside
    obtain ⟨other, entry, rfl⟩ := inside
    rcases mem_otherRows.mp entry with common | ⟨index, _, rfl⟩
    · rw [fst_classRow]
      exact (fst_commonRow_ne common _).symm
    · rw [fst_classRow, fst_structRow, Ne, String.append_right_inj]
      exact append_ne_append (by decide) (by decide) _ _

theorem rows_types_perm (count : ℕ) :
    (SizeTable.collect ((generatedClasses count).symbols.map typeRow)).rows.Perm
      (classRows count ++ otherRows count) := by
  rw [typeTable_eq]
  exact SizeTable.rows_collect_perm nodup_rows

theorem length_classRows : (classRows count).length = count := by
  rw [classRows, List.length_reverse, List.length_map, List.length_range]

theorem length_otherRows : (otherRows count).length = 5 + count := by
  rw [otherRows, List.length_append, List.length_map, List.length_range]
  rfl

theorem bytes_classRow {number : ℕ} (few : number < 2 ^ 33) :
    (classRow number).2.bytes = 224 + number := by
  unfold classRow
  rw [Size.bytes_clamp]
  omega

/-- The classes are the largest types, the last one first. -/
theorem ranked_types (few : count < 2 ^ 32) :
    (SizeTable.collect ((generatedClasses count).symbols.map typeRow)).ranked.take count =
      classRows count := by
  have front := SizeTable.take_ranked (rows_types_perm count) ?_ ?_
  · rwa [length_classRows] at front
  · rw [classRows, List.pairwise_reverse, List.pairwise_map]
    apply List.pairwise_lt_range.imp_of_mem
    intro first second _ membership smaller
    rw [List.mem_range] at membership
    apply SizeTable.ranksBefore_of_lt
    rw [Size.lt_iff, bytes_classRow (by omega), bytes_classRow (by omega)]
    omega
  · intro row membership other inside
    obtain ⟨index, _, rfl⟩ := mem_classRows.mp membership
    have small : other.2.bytes ≤ 120 := by
      rcases mem_otherRows.mp inside with common | ⟨_, _, rfl⟩
      · have most : ∀ row ∈ commonRows, row.2.bytes ≤ 120 := by decide
        exact most other common
      · change (Size.clamp 4).bytes ≤ 120
        decide
    apply SizeTable.ranksBefore_of_lt
    rw [Size.lt_iff, bytes_classRow (by omega)]
    omega

end Types

section Report

variable {count : ℕ}

theorem noZero_generatedClasses :
    ∀ symbol ∈ (generatedClasses count).symbols, '\x00' ∉ symbol.name.toList := by
  intro symbol membership
  rcases List.mem_append.mp membership with common | inside
  · have absent : ∀ symbol ∈ commonSymbols, '\x00' ∉ symbol.name.toList := by decide
    exact absent symbol common
  · obtain ⟨index, _, own⟩ := List.mem_flatMap.mp inside
    simp only [classSymbols, List.mem_cons, List.not_mem_nil, or_false] at own
    rcases own with rfl | rfl | rfl <;>
      rw [String.toList_append, List.mem_append, not_or] <;>
      exact ⟨not_mem_numbered (by decide) (by decide) _, by decide⟩

theorem visible_generatedClasses (count : ℕ) :
    ∀ symbol ∈ (generatedClasses count).symbols, symbol.name ≠ "" ∧ 0 < symbol.size := by
  intro symbol membership
  rcases List.mem_append.mp membership with common | inside
  · have visible : ∀ symbol ∈ commonSymbols, symbol.name ≠ "" ∧ 0 < symbol.size := by decide
    exact visible symbol common
  · obtain ⟨index, _, own⟩ := List.mem_flatMap.mp inside
    simp only [classSymbols, List.mem_cons, List.not_mem_nil, or_false] at own
    rcases own with rfl | rfl | rfl <;> simp [toString]

theorem bytes_total_types (few : count < 2 ^ 32) :
    (SizeTable.collect ((generatedClasses count).symbols.map typeRow)).total.bytes =
      (generatedClasses count).totalSize := by
  have size := totalSize_lt_of_lt few
  have sizes : Prod.snd ∘ typeRow = Size.clamp ∘ Symbol.size := rfl
  rw [SizeTable.total_collect, List.map_map, sizes, ← List.map_map, Size.bytes_sum_clamp,
    ← totalSize_eq_sum, totalSize_generatedClasses]
  omega

/-- What a report shows of a file with generated classes. -/
structure ShowsClasses (count : ℕ) (corpus : CorpusReport) : Prop where
  total : corpus.totalSymbolBytes.bytes = 376 + 228 * count + count * (count + 1) / 2
  classes : (corpus.namespaces.find? "GeneratedClasses").map Size.bytes =
    if count = 0 then none else some (228 * count + count * (count + 1) / 2)
  runtime : (corpus.namespaces.find? "[Runtime]").map Size.bytes = some 112
  thunks : (corpus.namespaces.find? "[Thunks]").map Size.bytes = some 8
  typeCount : corpus.types.rows.length = 5 + 2 * count
  typeBytes : ∀ number, 1 ≤ number → number ≤ count →
    (corpus.types.find? s!"GeneratedClasses.SomeClass{number}").map Size.bytes =
      some (224 + number)
  topTypes : (corpus.topTypes count).map (fun row => (row.1, row.2.bytes)) =
    ((List.range count).map fun index =>
      (s!"GeneratedClasses.SomeClass{index + 1}", 224 + (index + 1))).reverse

theorem map_classRows (few : count < 2 ^ 32) :
    (classRows count).map (fun row => (row.1, row.2.bytes)) =
      ((List.range count).map fun index =>
        (s!"GeneratedClasses.SomeClass{index + 1}", 224 + (index + 1))).reverse := by
  rw [classRows, List.map_reverse, List.map_map]
  congr 1
  apply List.map_congr_left
  intro index membership
  rw [List.mem_range] at membership
  exact congrArg (Prod.mk _) (bytes_classRow (by omega))

theorem showsClasses_of_tables (few : count < 2 ^ 32) {corpus : CorpusReport}
    (namespaces : corpus.namespaces = .collect ((generatedClasses count).symbols.map scopeRow))
    (types : corpus.types = .collect ((generatedClasses count).symbols.map typeRow)) :
    ShowsClasses count corpus where
  total := by
    rw [CorpusReport.totalSymbolBytes, types, bytes_total_types few, totalSize_generatedClasses]
  classes := by
    rw [namespaces]
    exact find?_namespaces_classes few
  runtime := by
    rw [namespaces, find?_namespaces_common (by decide), scopeRow_commonSymbols]
    decide
  thunks := by
    rw [namespaces, find?_namespaces_common (by decide), scopeRow_commonSymbols]
    decide
  typeCount := by
    rw [types, (rows_types_perm count).length_eq, List.length_append, length_classRows,
      length_otherRows]
    omega
  typeBytes := by
    intro number positive inside
    have membership : classRow number ∈ corpus.types.rows := by
      rw [types, (rows_types_perm count).mem_iff, List.mem_append, mem_classRows]
      exact .inl ⟨number - 1, by omega, by rw [Nat.sub_add_cancel positive]⟩
    have found : corpus.types.find? (classRow number).1 = some (classRow number).2 :=
      SizeTable.find?_eq_some_iff.mpr membership
    exact (congrArg _ found).trans (congrArg some (bytes_classRow (by omega)))
  topTypes := by
    rw [CorpusReport.topTypes, types, ranked_types few, map_classRows few]

/-- Where the names of the generated file fit the file format, the file is built, and its report has
the sizes of its symbols: those of the runtime and of thunks, and those of the classes in a
namespace of their own, which has one type for each class and one for the structure beside it. The
classes stand at the top of the ranking, the last one first. -/
theorem generatedClasses_attributed (count : ℕ) (namesFit :
    ((generatedClasses count).symbols.map fun symbol => (nameBytes symbol.name).length + 1).sum <
      2 ^ 32) :
    ∃ file, (generatedClasses count).build = .ok file ∧
      (generatedClasses count).symbolCount = 7 + 3 * count ∧
      (generatedClasses count).totalSize = 376 + 228 * count + count * (count + 1) / 2 ∧
      ∀ (machine : Machine) (settings : Backend.Settings) (path : Path),
        machine.files.read path = .ok file →
        let analysis : Analysis :=
          { order := [.structured], backends := settings, demangler := .roots,
            rules := Rules.standard.withRoot "GeneratedClasses" }
        ∃ report, analysis.analyze machine [path] = .done (.ok (.ofFiles [report])) ∧
          report.backend = some "structured" ∧
          report.symbolCount = (generatedClasses count).symbolCount ∧
          ShowsClasses count (.ofFiles [report]) := by
  refine ⟨_, build_eq_ok noZero_generatedClasses, symbolCount_generatedClasses count,
    totalSize_generatedClasses count, ?_⟩
  intro machine settings path readable analysis
  have only : analysis.order = [.structured] := rfl
  have content : (⟨(generatedClasses count).toBytes.toArray⟩ : ByteArray).data.toList =
      (generatedClasses count).toBytes := rfl
  obtain ⟨report, analyzed, backend, symbolCount, namespaces, types⟩ :=
    analyze_built (addressable_generatedClasses namesFit) noZero_generatedClasses
      (visible_generatedClasses count) only content readable
  refine ⟨report, analyzed, backend, symbolCount, ?_⟩
  apply showsClasses_of_tables (count_lt_of_namesFit namesFit)
  · exact (SizeTable.empty_merge _).trans (namespaces.trans (namespaceSizes_generated _))
  · exact (SizeTable.empty_merge _).trans (types.trans (typeSizes_generated _))

theorem generatedClasses_attributed_three :
    ((generatedClasses 3).symbols.map fun symbol => (nameBytes symbol.name).length + 1).sum <
      2 ^ 32 ∧
    ∃ file, (generatedClasses 3).build = .ok file ∧
      let machine : Machine :=
        { files := ⟨[(["classes.so"], .file file)], []⟩, programs := [] }
      let analysis : Analysis :=
        { order := [.structured], rules := Rules.standard.withRoot "GeneratedClasses" }
      ∃ report, analysis.analyze machine [⟨"classes.so"⟩] = .done (.ok (.ofFiles [report])) ∧
        report.symbolCount = 16 ∧
        (CorpusReport.ofFiles [report]).totalSymbolBytes.bytes = 1066 ∧
        ((CorpusReport.ofFiles [report]).topTypes 3).map (fun row => (row.1, row.2.bytes)) =
          [("GeneratedClasses.SomeClass3", 227), ("GeneratedClasses.SomeClass2", 226),
            ("GeneratedClasses.SomeClass1", 225)] := by
  have names : ((generatedClasses 3).symbols.map
      fun symbol => (nameBytes symbol.name).length + 1).sum = 523 := by decide
  have namesFit : ((generatedClasses 3).symbols.map
      fun symbol => (nameBytes symbol.name).length + 1).sum < 2 ^ 32 := by
    rw [names]
    decide
  obtain ⟨file, built, symbols, _, attributed⟩ := generatedClasses_attributed 3 namesFit
  refine ⟨namesFit, file, built, ?_⟩
  intro machine analysis
  obtain ⟨report, analyzed, _, count, shows⟩ := attributed machine {} ⟨"classes.so"⟩ rfl
  exact ⟨report, analyzed, count.trans symbols, shows.total, shows.topTypes⟩

end Report

end Fixture

end SymbolFootprint
