import SymbolFootprint.Proofs.Demangler.Keys
import SymbolFootprint.Proofs.Report.Distribution

/-!
The view by namespace and the view by type agree.

Both tables of a report are collected from the same attributions, but independently of each other.
Where the namespaces can be read off the keys of types, each namespace has the size of its types
(`viewsAgree_of_separable`). Merging keeps it so, because a merged table is one that is collected
from the attributions of all files (`views_agree`).
-/

namespace SymbolFootprint

/-- Each namespace has the size of its types, and the namespace of each type is there, unless it is
the missing one. -/
structure ViewsAgree (namespaces types : SizeTable) : Prop where
  sums : ∀ scope size, (scope, size) ∈ namespaces.rows →
    size = (types.restrict fun key => IsKeyOf scope key).total
  keyed : ∀ key size, (key, size) ∈ types.rows → ∃ scope, IsKeyOf scope key
  scopes : ∀ key size scope, (key, size) ∈ types.rows → IsKeyOf scope key →
    scope ≠ Attribution.noScope → scope ∈ namespaces.rows.map Prod.fst

namespace FileReport

section Attributions

variable {attributions : List (Attribution × Size)}

theorem mem_keys_namespaceSizes {scope : String} :
    scope ∈ (namespaceSizes attributions).rows.map Prod.fst ↔
      scope ≠ "" ∧ ∃ entry ∈ attributions, entry.1.scope = scope := by
  rw [namespaceSizes, SizeTable.mem_keys_collect]
  simp only [List.mem_map, List.mem_filter, decide_eq_true_eq]
  constructor
  · rintro ⟨_, ⟨⟨entry, membership, rfl⟩, nonempty⟩, rfl⟩
    exact ⟨nonempty, entry, membership, rfl⟩
  · rintro ⟨nonempty, entry, membership, rfl⟩
    exact ⟨_, ⟨⟨entry, membership, rfl⟩, nonempty⟩, rfl⟩

theorem mem_keys_typeSizes {key : String} :
    key ∈ (typeSizes attributions).rows.map Prod.fst ↔
      ∃ entry ∈ attributions, entry.1.typeKey = key := by
  rw [typeSizes, SizeTable.mem_keys_collect, List.map_map]
  simp only [List.mem_map, Function.comp_apply]

theorem size_of_mem_namespaceSizes {scope : String} {size : Size}
    (membership : (scope, size) ∈ (namespaceSizes attributions).rows) :
    size = ((attributions.filter fun entry => entry.1.scope = scope).map Prod.snd).sum := by
  have found := SizeTable.find?_eq_some_iff.mpr membership
  rw [namespaceSizes, SizeTable.find?_collect_filter fun name => decide (name ≠ ""),
    SizeTable.find?_collect] at found
  split at found
  · split at found
    · rw [← Option.some.inj found, SizeTable.sizesUnder, List.filter_map, List.map_map]
      rfl
    · cases found
  · cases found

theorem total_restrict_typeSizes (keep : String → Bool) :
    ((typeSizes attributions).restrict keep).total =
      ((attributions.filter fun entry => keep entry.1.typeKey).map Prod.snd).sum := by
  rw [typeSizes, SizeTable.total_restrict_collect, List.filter_map, List.map_map]
  rfl

variable (separable : ∀ entry ∈ attributions, entry.1.IsSeparable)

include separable

theorem filter_isKeyOf {scope : String} (nonempty : scope ≠ "")
    (named : scope ≠ Attribution.noScope) :
    (attributions.filter fun entry => IsKeyOf scope entry.1.typeKey) =
      attributions.filter fun entry => entry.1.scope = scope := by
  apply List.filter_congr
  intro entry membership
  exact decide_eq_decide.mpr ((separable entry membership).isKeyOf_typeKey_iff nonempty named)

/-- Attributions with namespaces that can be read off the keys give views that agree. -/
theorem viewsAgree_of_separable :
    ViewsAgree (namespaceSizes attributions) (typeSizes attributions) where
  sums := by
    intro scope size membership
    obtain ⟨nonempty, entry, inside, rfl⟩ :=
      mem_keys_namespaceSizes.mp (List.mem_map_of_mem (f := Prod.fst) membership)
    rw [size_of_mem_namespaceSizes membership, total_restrict_typeSizes,
      filter_isKeyOf separable nonempty (separable entry inside).named]
  keyed := by
    intro key size membership
    obtain ⟨entry, inside, rfl⟩ :=
      mem_keys_typeSizes.mp (List.mem_map_of_mem (f := Prod.fst) membership)
    exact ⟨_, (separable entry inside).isKeyOf_typeKey⟩
  scopes := by
    intro key size scope membership isKey named
    obtain ⟨entry, inside, rfl⟩ :=
      mem_keys_typeSizes.mp (List.mem_map_of_mem (f := Prod.fst) membership)
    have shown := isKey.unique (separable entry inside).isKeyOf_typeKey
    unfold Attribution.shownScope at shown
    split at shown
    · exact absurd shown named
    · next nonempty => exact mem_keys_namespaceSizes.mpr ⟨shown ▸ nonempty, entry, inside, shown.symm⟩

end Attributions

section Reports

variable (demangler : Demangler) {rules : Rules}

theorem separable_attributions (plain : rules.ArePlain) {records : List SymbolRecord}
    (noDot : ∀ record ∈ records, record.attributable = true → '.' ∉ record.identifier.toList) :
    ∀ entry ∈ attributions demangler rules records, entry.1.IsSeparable := by
  intro entry membership
  obtain ⟨record, inside, rfl⟩ := List.mem_map.mp membership
  rw [List.mem_filter] at inside
  exact Demangler.demangle_separable plain (noDot record inside.1 inside.2) demangler

end Reports

end FileReport

namespace CorpusReport

def pooled (parts : List (Backend.Target × Selection)) : Selection :=
  ⟨[], some ⟨"", parts.flatMap fun part => part.2.records⟩⟩

section Pooling

variable (demangler : Demangler) (rules : Rules) (parts : List (Backend.Target × Selection))
  (skipped : List SkippedFile)

theorem namespaces_eq_pooled :
    namespaces ⟨parts.map fun part => .ofSelection demangler rules part.1 part.2, skipped⟩ =
      FileReport.namespaceSizes
        (FileReport.attributions demangler rules (pooled parts).records) := by
  have all : (pooled parts).records.Perm (parts.flatMap fun part => part.2.records) := .refl _
  apply merged_eq_of_listings
  exact FileReport.table_of_listings demangler rules Attribution.scope _ FileReport.namespaces
    (FileReport.namespaces_ofSelection demangler rules) ⟨⟨""⟩, .empty, .none⟩ all

theorem types_eq_pooled :
    types ⟨parts.map fun part => .ofSelection demangler rules part.1 part.2, skipped⟩ =
      FileReport.typeSizes
        (FileReport.attributions demangler rules (pooled parts).records) := by
  have all : (pooled parts).records.Perm (parts.flatMap fun part => part.2.records) := .refl _
  apply merged_eq_of_listings
  apply FileReport.table_of_listings demangler rules Attribution.typeKey (fun _ => true)
    FileReport.types _ ⟨⟨""⟩, .empty, .none⟩ all
  intro target selection
  rw [List.filter_true, FileReport.types_ofSelection]

end Pooling

/-- Under plain rules, and for identifiers without dots, the views agree in the report on each file
and in the report on all of them. -/
theorem views_agree (demangler : Demangler) {rules : Rules} (plain : rules.ArePlain)
    (parts : List (Backend.Target × Selection)) (skipped : List SkippedFile)
    (noDot : ∀ part ∈ parts, ∀ record ∈ part.2.records,
      record.attributable = true → '.' ∉ record.identifier.toList) :
    let reports := parts.map fun part => FileReport.ofSelection demangler rules part.1 part.2
    let corpus : CorpusReport := ⟨reports, skipped⟩
    (∀ report ∈ reports, ViewsAgree report.namespaces report.types) ∧
      ViewsAgree corpus.namespaces corpus.types := by
  intro reports corpus
  constructor
  · intro report membership
    obtain ⟨part, inside, rfl⟩ := List.mem_map.mp membership
    apply FileReport.viewsAgree_of_separable
    exact FileReport.separable_attributions demangler plain (noDot part inside)
  · have namespaces : corpus.namespaces = _ := namespaces_eq_pooled demangler rules parts skipped
    have types : corpus.types = _ := types_eq_pooled demangler rules parts skipped
    rw [namespaces, types]
    apply FileReport.viewsAgree_of_separable
    apply FileReport.separable_attributions demangler plain
    intro record membership
    obtain ⟨part, inside, own⟩ := List.mem_flatMap.mp membership
    exact noDot part inside record own

theorem views_agree_two_files :
    let list : SymbolRecord := ⟨"system_List_Add", .clamp 40, .function⟩
    let map : SymbolRecord := ⟨"system_Map_Add", .clamp 2, .function⟩
    let top : SymbolRecord := ⟨"List_Add", .clamp 5, .function⟩
    let target : Backend.Target := ⟨⟨"libaot-Demo.dll.so"⟩, .empty, .none⟩
    let listed := fun records => (⟨[], some ⟨"nm", records⟩⟩ : Selection)
    let parts := [(target, listed [list, top]), (target, listed [map])]
    let corpus : CorpusReport :=
      ⟨parts.map fun part => FileReport.ofSelection .casing .standard part.1 part.2, []⟩
    Rules.standard.ArePlain ∧
    (∀ part ∈ parts, ∀ record ∈ part.2.records,
      record.attributable = true → '.' ∉ record.identifier.toList) ∧
    corpus.namespaces.rows = [("system", .clamp 42)] ∧
    Size.clamp 42 = (corpus.types.restrict fun key => IsKeyOf "system" key).total := by
  intro list map top target listed parts corpus
  have plain : Rules.standard.ArePlain := ⟨by decide, by decide, by decide⟩
  have noDot : ∀ part ∈ parts, ∀ record ∈ part.2.records,
      record.attributable = true → '.' ∉ record.identifier.toList := by decide
  have namespaces : corpus.namespaces.rows = [("system", .clamp 42)] := by decide
  have views := (views_agree .casing plain parts [] noDot).2
  exact ⟨plain, noDot, namespaces, views.sums "system" (.clamp 42) (by rw [namespaces]; simp)⟩

end CorpusReport

end SymbolFootprint
