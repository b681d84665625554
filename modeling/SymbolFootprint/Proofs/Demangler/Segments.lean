import SymbolFootprint.Demangler
import SymbolFootprint.Proofs.Text.Split

/-!
The segments of an identifier, and the identifiers that are taken apart.

Segments and identifiers determine each other (`Rules.joined_segments`, `Rules.segments_joined`). An
identifier without a reserved prefix and with more than one segment is left to the demangler
(`Demangler.demangle_of_unreserved`).
-/

namespace SymbolFootprint

namespace Rules

variable {rules : Rules} {identifier : String}

theorem map_toList_segments (rules : Rules) (identifier : String) :
    (rules.segments identifier).map String.toList =
      Text.split rules.delimiter identifier.toList := by
  rw [segments, List.map_map]
  exact List.map_id'' (fun _ => String.toList_ofList) _

theorem toList_joinedBy (separator : Char) (segments : List String) :
    (joinedBy separator segments).toList = Text.join [separator] (segments.map String.toList) :=
  String.toList_ofList

theorem joined_segments (rules : Rules) (identifier : String) :
    rules.joined (rules.segments identifier) = identifier := by
  rw [joined, joinedBy, map_toList_segments, Text.join_split, String.ofList_toList]

theorem segments_injective (rules : Rules) : Function.Injective rules.segments := by
  intro first second same
  rw [← rules.joined_segments first, same, rules.joined_segments]

theorem segments_ne_nil (rules : Rules) (identifier : String) : rules.segments identifier ≠ [] := by
  intro empty
  rw [segments, List.map_eq_nil_iff] at empty
  exact Text.split_ne_nil rules.delimiter identifier.toList empty

theorem delimiter_not_mem {segment : String} (membership : segment ∈ rules.segments identifier) :
    rules.delimiter ∉ segment.toList := by
  obtain ⟨piece, inside, rfl⟩ := List.mem_map.mp membership
  rw [String.toList_ofList]
  exact Text.not_mem_of_mem_split inside

theorem segments_joined {segments : List String} (nonempty : segments ≠ [])
    (absent : ∀ segment ∈ segments, rules.delimiter ∉ segment.toList) :
    rules.segments (rules.joined segments) = segments := by
  have mapNonempty : segments.map String.toList ≠ [] := fun empty =>
    nonempty (List.map_eq_nil_iff.mp empty)
  rw [Rules.segments, joined, toList_joinedBy,
    Text.split_join mapNonempty (List.forall_mem_map.mpr absent), Text.map_ofList_map_toList]

theorem joinedBy_inj {separator : Char} {first second : List String} (nonempty : first ≠ [])
    (otherNonempty : second ≠ []) (absent : ∀ name ∈ first, separator ∉ name.toList)
    (otherAbsent : ∀ name ∈ second, separator ∉ name.toList)
    (same : joinedBy separator first = joinedBy separator second) : first = second := by
  let separated : Rules := ⟨[], [], separator⟩
  have read : separated.segments (separated.joined first) = first :=
    segments_joined nonempty absent
  have readOther : separated.segments (separated.joined second) = second :=
    segments_joined otherNonempty otherAbsent
  rw [← read, ← readOther]
  exact congrArg separated.segments same

theorem segments_append (rules : Rules) (identifier more : String) :
    rules.segments (identifier ++ String.singleton rules.delimiter ++ more) =
      rules.segments identifier ++ rules.segments more := by
  simp only [segments, String.toList_append, String.toList_singleton, List.append_assoc,
    List.singleton_append, Text.split_append_cons, List.map_append]

theorem joined_append (rules : Rules) {first second : List String} (nonempty : first ≠ [])
    (otherNonempty : second ≠ []) :
    rules.joined (first ++ second) =
      rules.joined first ++ String.singleton rules.delimiter ++ rules.joined second := by
  rw [← String.toList_inj]
  simp only [joined, toList_joinedBy, String.toList_append, String.toList_singleton,
    List.map_append]
  apply Text.join_append
  · exact fun empty => nonempty (List.map_eq_nil_iff.mp empty)
  · exact fun empty => otherNonempty (List.map_eq_nil_iff.mp empty)

/-- The identifier starts with a prefix that is reserved. -/
def Reserves (rules : Rules) (identifier : String) : Prop :=
  ∃ entry ∈ rules.reserved, entry.start.toList <+: identifier.toList

instance (rules : Rules) (identifier : String) : Decidable (rules.Reserves identifier) :=
  inferInstanceAs (Decidable (∃ entry ∈ rules.reserved, entry.start.toList <+: identifier.toList))

theorem reserved?_eq_none_iff :
    rules.reserved? identifier = none ↔ ¬ rules.Reserves identifier := by
  rw [reserved?, Option.map_eq_none_iff, reservedPrefix?, List.find?_eq_none, Reserves]
  simp only [List.isPrefixOf_iff_prefix, not_exists, not_and]

end Rules

namespace Demangler

variable {rules : Rules} {identifier : String}

theorem demangle_of_reserved (demangler : Demangler) (reserved : rules.Reserves identifier) :
    ∃ entry ∈ rules.reserved,
      demangler.demangle rules identifier = .bucket entry.bucket identifier := by
  cases found : rules.reserved? identifier with
  | none => exact absurd reserved (Rules.reserved?_eq_none_iff.mp found)
  | some attribution =>
    obtain ⟨entry, first, rfl⟩ := Option.map_eq_some_iff.mp found
    refine ⟨entry, List.mem_of_find?_eq_some first, ?_⟩
    rw [demangle, found]
    rfl

theorem demangle_of_short (demangler : Demangler) (unreserved : ¬ rules.Reserves identifier)
    (short : (rules.segments identifier).length < 2) :
    demangler.demangle rules identifier = .bucket Rules.globalBucket identifier := by
  rw [demangle, Rules.reserved?_eq_none_iff.mpr unreserved, Rules.tooShort?, if_pos short]
  rfl

theorem demangle_of_unreserved (demangler : Demangler) (unreserved : ¬ rules.Reserves identifier)
    (long : 2 ≤ (rules.segments identifier).length) :
    demangler.demangle rules identifier =
      (demangler.structured? rules identifier).getD (Rules.unmatched identifier) := by
  rw [demangle, Rules.reserved?_eq_none_iff.mpr unreserved, Rules.tooShort?,
    if_neg (Nat.not_lt.mpr long)]
  rfl

end Demangler

end SymbolFootprint
