import SymbolFootprint.Proofs.Demangler.Recovery
import SymbolFootprint.Proofs.Report.Aggregation

/-!
Which keys of types name a type.

A bucket has a name, and the demangler by case takes segments for the type that begin with a letter,
or the whole identifier. So only the demangler that trusts root namespaces can leave a type without
a name, and it does so just where two delimiters in a row, or one at the front, leave an empty
segment in the place of the type (`Demangler.type_eq_empty_iff`). All other keys of a report are a
namespace, a dot and a type with a name (`FileReport.types_named`).
-/

namespace SymbolFootprint

/-- Behind a known root the segment in the place of the type is empty: the one before the member. -/
structure Rules.LosesType (rules : Rules) (identifier : String) : Prop where
  trusted : rules.TrustsRoot identifier
  empty : (rules.segments identifier).reverse[
    if EndsInArity (rules.segments identifier) then 2 else 1]? = some ""

instance (rules : Rules) (identifier : String) : Decidable (rules.LosesType identifier) :=
  decidable_of_iff (rules.TrustsRoot identifier ∧ (rules.segments identifier).reverse[
      if EndsInArity (rules.segments identifier) then 2 else 1]? = some "")
    ⟨fun ⟨trusted, empty⟩ => ⟨trusted, empty⟩, fun loses => ⟨loses.trusted, loses.empty⟩⟩

theorem Attribution.shownScope_ne_empty (scope : String) : shownScope scope ≠ "" := by
  unfold shownScope
  split
  · decide
  · assumption

theorem Attribution.shownScope_mem (scope : String) : shownScope scope ∈ [scope, noScope] := by
  unfold shownScope
  split <;> simp

theorem SymbolRecord.identifier_ne_empty (record : SymbolRecord)
    (attributable : record.attributable = true) : record.identifier ≠ "" := by
  simp only [SymbolRecord.attributable, Bool.and_eq_true, decide_eq_true_eq] at attributable
  exact attributable.2

namespace Demangler

variable {rules : Rules} {identifier : String}

theorem RootCut.type_at {segments parts members : List String} {type : String}
    (cut : RootCut segments parts type members) :
    segments.reverse[if EndsInArity segments then 2 else 1]? = some type := by
  rw [← cut.length, ← cut.whole]
  simp

theorem bucketName_ne_empty (buckets : ∀ entry ∈ rules.reserved, entry.bucket ≠ "") :
    ∀ name ∈ rules.bucketNames, name ≠ "" := by
  intro name membership
  rcases List.mem_append.mp membership with own | shared
  · obtain ⟨entry, inside, rfl⟩ := List.mem_map.mp own
    exact buckets entry inside
  · have all : ∀ name ∈ [Rules.globalBucket, Rules.unknownBucket], name ≠ "" := by decide
    exact all name shared

theorem startsWith_ne_empty {initial : Char → Bool} {segment : String}
    (starts : startsWith initial segment = true) : segment ≠ "" := by
  rintro rfl
  cases starts

theorem joined_ne_empty {segment : String} (nonempty : segment ≠ "") (segments : List String) :
    rules.joined (segment :: segments) ≠ "" := by
  intro empty
  have start := Text.prefix_join_cons [rules.delimiter] segment.toList (segments.map String.toList)
  rw [← List.map_cons, ← Rules.toList_joinedBy, ← Rules.joined, empty] at start
  exact nonempty (String.toList_eq_nil_iff.mp (List.prefix_nil.mp start))

/-- By case, the type has a name: it begins in upper case, or is the whole identifier. -/
theorem splitByCase_type_ne_empty (nonempty : identifier ≠ "") (segments : List String) :
    (splitByCase rules identifier segments).type ≠ "" := by
  rcases splitByCase_cases rules identifier segments with
    whole | ⟨parts, types, members, _, _, ⟨some, upper⟩, same⟩
  · rw [whole]
    exact nonempty
  · obtain ⟨type, others, rfl⟩ := List.exists_cons_of_ne_nil some
    rw [same]
    exact joined_ne_empty (startsWith_ne_empty (upper type (List.mem_cons_self ..))) others

variable (buckets : ∀ entry ∈ rules.reserved, entry.bucket ≠ "")

include buckets

theorem casing_type_ne_empty (nonempty : identifier ≠ "") :
    (Demangler.casing.demangle rules identifier).type ≠ "" := by
  rcases demangle_cases .casing rules identifier with
    ⟨entry, membership, bucket⟩ | bucket | bucket | structured
  · rw [bucket]
    exact buckets entry membership
  · rw [bucket]
    exact bucketName_ne_empty buckets Rules.globalBucket (by simp [Rules.bucketNames])
  · rw [bucket]
    exact bucketName_ne_empty buckets Rules.unknownBucket (by simp [Rules.bucketNames])
  · rw [← Option.some.inj structured]
    exact splitByCase_type_ne_empty nonempty _

theorem roots_type_eq_empty_iff :
    (Demangler.roots.demangle rules identifier).type = "" ↔ rules.LosesType identifier := by
  by_cases trusted : rules.TrustsRoot identifier
  · obtain ⟨parts, type, members, cut, _, taken⟩ := roots_of_trusted trusted
    have place := cut.type_at
    rw [taken]
    constructor
    · rintro rfl
      exact ⟨trusted, place⟩
    · intro loses
      exact Option.some.inj (place.symm.trans loses.empty)
  · obtain ⟨name, membership, bucket⟩ := roots_of_untrusted trusted
    rw [bucket]
    constructor
    · intro empty
      exact absurd empty (bucketName_ne_empty buckets name membership)
    · exact fun loses => absurd loses.trusted trusted

/-- Only behind a known root, and only from an empty segment, comes a type without a name. -/
theorem type_eq_empty_iff (demangler : Demangler) (nonempty : identifier ≠ "") :
    (demangler.demangle rules identifier).type = "" ↔
      demangler = .roots ∧ rules.LosesType identifier := by
  cases demangler with
  | roots => simpa using roots_type_eq_empty_iff buckets
  | casing => simpa using casing_type_ne_empty buckets nonempty

end Demangler

namespace FileReport

theorem mem_keys_types {demangler : Demangler} {rules : Rules} {target : Backend.Target}
    {selection : Selection} {key : String} :
    key ∈ (ofSelection demangler rules target selection).types.rows.map Prod.fst ↔
      ∃ record ∈ selection.records, record.attributable = true ∧
        (demangler.demangle rules record.identifier).typeKey = key := by
  rw [types_ofSelection, SizeTable.mem_keys_collect, mem_keys_rowsBy]

/-- The type that a demangler finds has no name only where a root is trusted and the segment in the
place of the type is empty. So each key of a report is a namespace, or what stands for none, a dot
and a type, with a name unless the symbol is such a one; and each such symbol has a key that ends in
the dot. -/
theorem types_named (rules : Rules) (buckets : ∀ entry ∈ rules.reserved, entry.bucket ≠ "")
    (demangler : Demangler) :
    (∀ identifier, identifier ≠ "" →
      ((demangler.demangle rules identifier).type = "" ↔
        demangler = .roots ∧ rules.LosesType identifier)) ∧
    ∀ (target : Backend.Target) (selection : Selection),
      let keys := (ofSelection demangler rules target selection).types.rows.map Prod.fst
      (∀ key ∈ keys, ∃ record ∈ selection.records, record.attributable = true ∧
        ∃ scope type, key = scope ++ "." ++ type ∧ scope ≠ "" ∧
          scope ∈ [(demangler.demangle rules record.identifier).scope, Attribution.noScope] ∧
          type = (demangler.demangle rules record.identifier).type ∧
          (type = "" ↔ demangler = .roots ∧ rules.LosesType record.identifier)) ∧
      ∀ record ∈ selection.records, record.attributable = true → demangler = .roots →
        rules.LosesType record.identifier → ∃ scope, scope ≠ "" ∧ scope ++ "." ∈ keys := by
  have named : ∀ identifier, identifier ≠ "" →
      ((demangler.demangle rules identifier).type = "" ↔
        demangler = .roots ∧ rules.LosesType identifier) :=
    fun _ => Demangler.type_eq_empty_iff buckets demangler
  refine ⟨named, ?_⟩
  intro target selection keys
  constructor
  · intro key membership
    obtain ⟨record, inside, attributable, rfl⟩ := mem_keys_types.mp membership
    refine ⟨record, inside, attributable, _, _, rfl, Attribution.shownScope_ne_empty _,
      Attribution.shownScope_mem _, rfl, named _ (record.identifier_ne_empty attributable)⟩
  · rintro record inside attributable rfl loses
    have empty := (named _ (record.identifier_ne_empty attributable)).mpr ⟨rfl, loses⟩
    have listed : (Demangler.roots.demangle rules record.identifier).typeKey ∈ keys :=
      mem_keys_types.mpr ⟨record, inside, attributable, rfl⟩
    rw [Attribution.typeKey, empty, String.append_empty] at listed
    exact ⟨_, Attribution.shownScope_ne_empty _, listed⟩

/-- The usual buckets have names. Of two constructors, only the one whose name begins with a dot,
written as an underscore, goes without a type. -/
theorem types_named_constructors :
    let rules := Rules.standard
    let lost : SymbolRecord := ⟨"System_Object__ctor", .clamp 40, .function⟩
    let named : SymbolRecord := ⟨"System_Object_ctor", .clamp 7, .function⟩
    let target : Backend.Target := ⟨⟨"libaot-Demo.dll.so"⟩, .empty, .none⟩
    let selection : Selection := ⟨[], some ⟨"nm", [lost, named]⟩⟩
    (∀ entry ∈ rules.reserved, entry.bucket ≠ "") ∧
    lost.identifier ≠ "" ∧ named.identifier ≠ "" ∧ rules.LosesType lost.identifier ∧
    (Demangler.roots.demangle rules lost.identifier).type = "" ∧
    (Demangler.roots.demangle rules named.identifier).type ≠ "" ∧
    (Demangler.casing.demangle rules lost.identifier).type ≠ "" ∧
    ∃ scope, scope ≠ "" ∧
      scope ++ "." ∈ (ofSelection .roots rules target selection).types.rows.map Prod.fst := by
  intro rules lost named target selection
  have buckets : ∀ entry ∈ rules.reserved, entry.bucket ≠ "" := by decide
  have loses : rules.LosesType lost.identifier := by decide
  have keeps : ¬ rules.LosesType named.identifier := by decide
  obtain ⟨byRoots, reports⟩ := types_named rules buckets .roots
  obtain ⟨byCase, _⟩ := types_named rules buckets .casing
  refine ⟨buckets, by decide, by decide, loses, (byRoots _ (by decide)).mpr ⟨rfl, loses⟩, ?_, ?_, ?_⟩
  · exact fun empty => keeps ((byRoots _ (by decide)).mp empty).2
  · intro empty
    cases ((byCase _ (by decide)).mp empty).1
  · exact (reports target selection).2 lost (by simp [selection, Selection.records]) (by decide)
      rfl loses

/-- The name of a constructor begins with a dot, for which an identifier has a second underscore. -/
theorem constructor_without_type :
    (∀ entry ∈ Rules.standard.reserved, entry.bucket ≠ "") ∧
    Demangler.roots.demangle .standard "System_Object__ctor" = ⟨"System.Object", "", "ctor"⟩ ∧
    (Demangler.roots.demangle .standard "System_Object__ctor").typeKey = "System.Object." := by
  decide

end FileReport

end SymbolFootprint
