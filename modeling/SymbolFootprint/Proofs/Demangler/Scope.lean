import SymbolFootprint.Proofs.Demangler.Parts

/-!
When an attribution has a namespace.

Whatever the demangler that trusts root namespaces takes apart gets a namespace that starts with the
known root (`splitByRoot_scope`). All other identifiers go into buckets. So this demangler leaves no
namespace empty unless a root or a bucket is (`scope_ne_empty_of_roots`).
-/

namespace SymbolFootprint

theorem Text.prefix_join_cons (separator piece : List Char) (pieces : List (List Char)) :
    piece <+: Text.join separator (piece :: pieces) := by
  cases pieces with
  | nil => exact List.prefix_rfl
  | cons next pieces =>
    rw [Text.join_cons_cons, List.append_assoc]
    exact List.prefix_append _ _

namespace Demangler

theorem toList_prefix_dotted (part : String) (parts : List String) :
    part.toList <+: (dotted (part :: parts)).toList := by
  rw [dotted, Rules.joinedBy, String.toList_ofList, List.map_cons]
  exact Text.prefix_join_cons ['.'] part.toList (parts.map String.toList)

theorem splitByRoot_scope {rules : Rules} {segments : List String} {attribution : Attribution}
    (split : splitByRoot rules segments = some attribution) :
    ∃ root, rules.isKnownRoot root = true ∧ root.toList <+: attribution.scope.toList := by
  obtain ⟨root, parts, type, members, known, _, rfl⟩ := splitByRoot_eq_some split
  exact ⟨root, known, toList_prefix_dotted root parts⟩

/-- Unless a root or a bucket has an empty name, no namespace by roots is empty. -/
theorem scope_ne_empty_of_roots {rules : Rules} (roots : "" ∉ rules.roots)
    (buckets : ∀ entry ∈ rules.reserved, entry.bucket ≠ "") (identifier : String) :
    (Demangler.roots.demangle rules identifier).scope ≠ "" := by
  rcases demangle_cases .roots rules identifier with
    ⟨entry, membership, bucket⟩ | bucket | bucket | structured
  · rw [bucket]
    exact buckets entry membership
  · rw [bucket]
    change Rules.globalBucket ≠ ""
    decide
  · rw [bucket]
    change Rules.unknownBucket ≠ ""
    decide
  · obtain ⟨root, known, start⟩ := splitByRoot_scope structured
    have membership : root ∈ rules.roots := List.contains_iff_mem.mp known
    intro empty
    rw [empty, String.toList_empty, List.prefix_nil, String.toList_eq_nil_iff] at start
    exact roots (start ▸ membership)

end Demangler

end SymbolFootprint
