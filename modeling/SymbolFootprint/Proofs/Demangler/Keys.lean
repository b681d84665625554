import SymbolFootprint.Proofs.Demangler.Scope
import SymbolFootprint.Proofs.Text.Split
import SymbolFootprint.Text.Affix

/-!
Keys of types, and the namespaces that can be read off them.

The key of a type is its namespace, a dot and its name. A name without dots makes the namespace what
stands before the last dot (`IsKeyOf.unique`). Rules that put no dots into names keep it so for every
identifier without dots, and no namespace is mistaken for the missing one (`demangle_separable`).
-/

namespace SymbolFootprint

namespace Text

/-- What stands before the last of several equal characters is determined. -/
theorem append_cons_inj_of_not_mem {c : Char} {first second rest others : List Char}
    (last : c ∉ rest) (otherLast : c ∉ others) (same : first ++ c :: rest = second ++ c :: others) :
    first = second := by
  have longer {front back rest others : List Char} (last : c ∉ rest) :
      front ++ c :: rest = (front ++ back) ++ c :: others → back = [] := by
    intro same
    rw [List.append_assoc, List.append_cancel_left_eq] at same
    cases back with
    | nil => rfl
    | cons d back =>
      have inside : rest = back ++ c :: others := (List.cons.inj same).2
      exact absurd (by simp [inside]) last
  rcases List.append_eq_append_iff.mp same with ⟨back, rfl, _⟩ | ⟨back, rfl, _⟩
  · rw [longer last same, List.append_nil]
  · rw [longer otherLast same.symm, List.append_nil]

end Text

/-- The key is one of a type of the scope, with a name without dots. -/
def IsKeyOf (scope key : String) : Prop :=
  ∃ type : String, '.' ∉ type.toList ∧ key = scope ++ "." ++ type

namespace IsKeyOf

theorem iff_afterStart? {scope key : String} :
    IsKeyOf scope key ↔
      ∃ type ∈ Text.afterStart? (scope ++ ".").toList key.toList, '.' ∉ type := by
  simp only [IsKeyOf, Option.mem_def, Text.afterStart?_eq_some_iff]
  constructor
  · rintro ⟨type, noDot, rfl⟩
    exact ⟨type.toList, String.toList_append, noDot⟩
  · rintro ⟨type, same, noDot⟩
    refine ⟨String.ofList type, by rwa [String.toList_ofList], ?_⟩
    rw [← String.toList_inj, same]
    simp only [String.toList_append, String.toList_ofList]

instance (scope key : String) : Decidable (IsKeyOf scope key) :=
  decidable_of_iff _ iff_afterStart?.symm

/-- No key is one of two scopes. -/
theorem unique {first second key : String} (isKey : IsKeyOf first key)
    (isOtherKey : IsKeyOf second key) : first = second := by
  obtain ⟨type, noDot, rfl⟩ := isKey
  obtain ⟨other, otherNoDot, same⟩ := isOtherKey
  rw [← String.toList_inj] at same ⊢
  simp only [String.toList_append, List.append_assoc] at same
  exact Text.append_cons_inj_of_not_mem noDot otherNoDot same

end IsKeyOf

/-- A name of a namespace that is a single segment. -/
structure IsPlain (name : String) : Prop where
  nonempty : name ≠ ""
  noDot : '.' ∉ name.toList
  named : name ≠ Attribution.noScope

instance (name : String) : Decidable (IsPlain name) :=
  decidable_of_iff (name ≠ "" ∧ '.' ∉ name.toList ∧ name ≠ Attribution.noScope)
    ⟨fun ⟨nonempty, noDot, named⟩ => ⟨nonempty, noDot, named⟩,
      fun plain => ⟨plain.nonempty, plain.noDot, plain.named⟩⟩

/-- The rules put no dots into names, and none of their names stands for the missing namespace. -/
structure Rules.ArePlain (rules : Rules) : Prop where
  delimiter : rules.delimiter ≠ '.'
  roots : ∀ root ∈ rules.roots, IsPlain root
  buckets : ∀ entry ∈ rules.reserved, IsPlain entry.bucket

namespace Attribution

/-- The namespace can be read off the key of the type. -/
structure IsSeparable (attribution : Attribution) : Prop where
  noDot : '.' ∉ attribution.type.toList
  named : attribution.scope ≠ noScope

theorem isSeparable_bucket {name : String} (plain : IsPlain name) (identifier : String) :
    (bucket name identifier).IsSeparable :=
  ⟨plain.noDot, plain.named⟩

namespace IsSeparable

variable {attribution : Attribution} (separable : attribution.IsSeparable)

include separable

theorem isKeyOf_typeKey : IsKeyOf (shownScope attribution.scope) attribution.typeKey :=
  ⟨attribution.type, separable.noDot, rfl⟩

theorem isKeyOf_typeKey_iff {scope : String} (nonempty : scope ≠ "") (named : scope ≠ noScope) :
    IsKeyOf scope attribution.typeKey ↔ attribution.scope = scope := by
  constructor
  · intro isKey
    have shown := isKey.unique separable.isKeyOf_typeKey
    unfold shownScope at shown
    split at shown
    · exact absurd shown named
    · exact shown.symm
  · rintro rfl
    have isKey := separable.isKeyOf_typeKey
    rwa [shownScope, if_neg nonempty] at isKey

end IsSeparable

end Attribution

namespace Rules

variable {rules : Rules}

theorem not_mem_segment {c : Char} {identifier segment : String} (absent : c ∉ identifier.toList)
    (membership : segment ∈ rules.segments identifier) : c ∉ segment.toList := by
  obtain ⟨piece, inside, rfl⟩ := List.mem_map.mp membership
  rw [String.toList_ofList]
  intro own
  have present : c ∈ Text.join [rules.delimiter] (Text.split rules.delimiter identifier.toList) :=
    Text.mem_join_of_mem inside own
  rw [Text.join_split] at present
  exact absent present

theorem not_mem_joined {c : Char} {segments : List String} (differs : rules.delimiter ≠ c)
    (absent : ∀ segment ∈ segments, c ∉ segment.toList) : c ∉ (rules.joined segments).toList := by
  rw [joined, joinedBy, String.toList_ofList]
  intro present
  rcases Text.mem_of_mem_join present with between | ⟨piece, inside, own⟩
  · exact differs (List.mem_singleton.mp between).symm
  · obtain ⟨segment, membership, rfl⟩ := List.mem_map.mp inside
    exact absent segment membership own

end Rules

namespace Demangler

theorem dotted_eq_singleton_or_dot (part : String) (parts : List String) :
    dotted (part :: parts) = part ∨ '.' ∈ (dotted (part :: parts)).toList := by
  cases parts with
  | nil => exact .inl (dotted_singleton part)
  | cons next parts =>
    apply Or.inr
    rw [dotted, Rules.joinedBy, String.toList_ofList, List.map_cons, List.map_cons,
      Text.join_cons_cons]
    simp

theorem dotted_ne_noScope {part : String} (plain : IsPlain part) (parts : List String) :
    dotted (part :: parts) ≠ Attribution.noScope := by
  intro same
  rcases dotted_eq_singleton_or_dot part parts with single | dot
  · exact plain.named (single.symm.trans same)
  · rw [same] at dot
    exact absurd dot (by decide)

theorem dotted_ne_of_lower {parts : List String} {name : String} {c : Char}
    (lower : ∀ part ∈ parts, startsWith isAsciiLower part = true)
    (head : name.toList.head? = some c) (noLower : isAsciiLower c = false) :
    dotted parts ≠ name := by
  intro same
  rw [← same] at head
  cases parts with
  | nil => exact absurd head (Option.some_ne_none c).symm
  | cons part parts =>
    obtain ⟨rest, whole⟩ := toList_prefix_dotted part parts
    obtain ⟨first, found, isLower⟩ :=
      (Option.any_eq_true _ _).mp (lower part (List.mem_cons_self ..))
    rw [← whole, List.head?_append, found, Option.some_or, Option.some.injEq] at head
    rw [head, noLower] at isLower
    cases isLower

variable {rules : Rules} (plain : rules.ArePlain) {identifier : String}
  (noDot : '.' ∉ identifier.toList)

include plain noDot

theorem splitByRoot_separable {attribution : Attribution}
    (split : splitByRoot rules (rules.segments identifier) = some attribution) :
    attribution.IsSeparable := by
  obtain ⟨root, parts, type, members, known, cut, rfl⟩ := splitByRoot_eq_some split
  have isRoot : root ∈ rules.roots := List.contains_iff_mem.mp known
  have isSegment : type ∈ rules.segments identifier := by simp [cut]
  exact ⟨Rules.not_mem_segment noDot isSegment, dotted_ne_noScope (plain.roots root isRoot) parts⟩

theorem splitByCase_separable :
    (splitByCase rules identifier (rules.segments identifier)).IsSeparable := by
  rcases splitByCase_cases rules identifier (rules.segments identifier) with
    whole | ⟨parts, types, members, cut, lower, _, same⟩
  · rw [whole]
    have named : "" ≠ Attribution.noScope := by decide
    exact ⟨noDot, named⟩
  · rw [same]
    have parenthesis : Attribution.noScope.toList.head? = some '(' := by decide
    refine ⟨Rules.not_mem_joined plain.delimiter ?_,
      dotted_ne_of_lower lower parenthesis (by decide)⟩
    intro type membership
    have isSegment : type ∈ rules.segments identifier := by simp [cut, membership]
    exact Rules.not_mem_segment noDot isSegment

/-- Under plain rules the namespace of an identifier without dots can be read off its key. -/
theorem demangle_separable (demangler : Demangler) :
    (demangler.demangle rules identifier).IsSeparable := by
  rcases demangle_cases demangler rules identifier with
    ⟨entry, membership, bucket⟩ | bucket | bucket | structured
  · rw [bucket]
    exact Attribution.isSeparable_bucket (plain.buckets entry membership) identifier
  · rw [bucket]
    exact Attribution.isSeparable_bucket ⟨by decide, by decide, by decide⟩ identifier
  · rw [bucket]
    exact Attribution.isSeparable_bucket ⟨by decide, by decide, by decide⟩ identifier
  · cases demangler with
    | roots => exact splitByRoot_separable plain noDot structured
    | casing =>
      rw [← Option.some.inj structured]
      exact splitByCase_separable plain noDot

end Demangler

end SymbolFootprint
