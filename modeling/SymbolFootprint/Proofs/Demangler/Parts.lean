import Mathlib.Data.List.TakeWhile
import SymbolFootprint.Demangler

/-!
The parts that a demangler makes of an identifier.

An identifier goes into a bucket or is taken apart in the demangler's own way (`demangle_cases`). Both
ways cut the segments in three: what is before the type makes up the namespace, and what is behind it
makes up the member (`splitByRoot_eq_some`, `splitByCase_cases`).
-/

namespace SymbolFootprint

theorem Rules.joined_singleton (rules : Rules) (segment : String) :
    rules.joined [segment] = segment :=
  String.ofList_toList

namespace Demangler

theorem dotted_singleton (part : String) : dotted [part] = part :=
  String.ofList_toList

/-- An identifier has the bucket of a reserved prefix, one of the two buckets for all rules, or what
the demangler itself makes of it. -/
theorem demangle_cases (demangler : Demangler) (rules : Rules) (identifier : String) :
    (∃ entry ∈ rules.reserved,
      demangler.demangle rules identifier = .bucket entry.bucket identifier) ∨
    demangler.demangle rules identifier = .bucket Rules.globalBucket identifier ∨
    demangler.demangle rules identifier = .bucket Rules.unknownBucket identifier ∨
    demangler.structured? rules identifier = some (demangler.demangle rules identifier) := by
  unfold demangle
  cases reserved : rules.reserved? identifier with
  | some attribution =>
    obtain ⟨entry, found, rfl⟩ := Option.map_eq_some_iff.mp reserved
    exact .inl ⟨entry, List.mem_of_find?_eq_some found, rfl⟩
  | none =>
    apply Or.inr
    cases short : rules.tooShort? identifier with
    | some attribution =>
      unfold Rules.tooShort? at short
      split at short
      · cases short
        exact .inl rfl
      · cases short
    | none =>
      apply Or.inr
      cases structured : demangler.structured? rules identifier with
      | none => exact .inl rfl
      | some attribution => exact .inr rfl

theorem exists_cons_of_head? {segments front rest : List String} {root : String}
    (head : segments.head? = some root) (cut : segments = front ++ rest) (nonempty : front ≠ []) :
    ∃ parts, front = root :: parts := by
  cases front with
  | nil => exact absurd rfl nonempty
  | cons part parts =>
    rw [cut, List.cons_append, List.head?_cons, Option.some.injEq] at head
    exact ⟨parts, by rw [head]⟩

theorem splitByRoot_eq_some {rules : Rules} {segments : List String} {attribution : Attribution}
    (split : splitByRoot rules segments = some attribution) :
    ∃ root parts type members, rules.isKnownRoot root = true ∧
      segments = root :: parts ++ type :: members ∧
      attribution = ⟨dotted (root :: parts), type, rules.joined members⟩ := by
  unfold splitByRoot at split
  split at split
  · next trusted =>
    obtain ⟨root, head, known⟩ := (Option.any_eq_true _ _).mp trusted
    have cutAt (front : List String) (type : String) (members : List String)
        (cut : segments = front ++ type :: members) (nonempty : front ≠ [])
        (same : attribution = ⟨dotted front, type, rules.joined members⟩) :
        ∃ root parts type members, rules.isKnownRoot root = true ∧
          segments = root :: parts ++ type :: members ∧
          attribution = ⟨dotted (root :: parts), type, rules.joined members⟩ := by
      obtain ⟨parts, rfl⟩ := exists_cons_of_head? head cut nonempty
      exact ⟨root, parts, type, members, known, cut, same⟩
    split at split
    · next last member type part parts reversed =>
      have forward := List.reverse_eq_iff.mp reversed
      split at split
      · cases split
        exact cutAt (part :: parts).reverse type [member, last] (by simp [forward]) (by simp) rfl
      · cases split
        apply cutAt (type :: part :: parts).reverse member [last] (by simp [forward]) (by simp)
        rw [rules.joined_singleton]
    · next last type part reversed =>
      have forward := List.reverse_eq_iff.mp reversed
      cases split
      apply cutAt [part] type [last] forward (List.cons_ne_nil _ _)
      rw [rules.joined_singleton, dotted_singleton]
    · cases split
  · cases split

/-- Unless the whole identifier is the type, the namespace begins in lower case and the type in
upper case. -/
theorem splitByCase_cases (rules : Rules) (identifier : String) (segments : List String) :
    splitByCase rules identifier segments = ⟨"", identifier, ""⟩ ∨
    ∃ parts types members, segments = parts ++ types ++ members ∧
      (∀ part ∈ parts, startsWith isAsciiLower part = true) ∧
      (types ≠ [] ∧ ∀ type ∈ types, startsWith isAsciiUpper type = true) ∧
      splitByCase rules identifier segments =
        ⟨dotted parts, rules.joined types, rules.joined members⟩ := by
  have front := List.takeWhile_append_dropWhile (p := startsWith isAsciiLower) (l := segments)
  have lower (part : String) (membership : part ∈ segments.takeWhile (startsWith isAsciiLower)) :
      startsWith isAsciiLower part = true := List.mem_takeWhile_imp membership
  unfold splitByCase
  dsimp only
  generalize segments.takeWhile (startsWith isAsciiLower) = parts at front lower ⊢
  generalize segments.dropWhile (startsWith isAsciiLower) = others at front ⊢
  have back := List.takeWhile_append_dropWhile (p := startsWith isAsciiUpper) (l := others)
  have upper (type : String) (membership : type ∈ others.takeWhile (startsWith isAsciiUpper)) :
      startsWith isAsciiUpper type = true := List.mem_takeWhile_imp membership
  generalize others.takeWhile (startsWith isAsciiUpper) = types at back upper ⊢
  generalize others.dropWhile (startsWith isAsciiUpper) = members at back ⊢
  subst back front
  split
  · exact .inl rfl
  · next first second more =>
    apply Or.inr
    have cut := List.take_append_drop ((first :: second :: more).length - 1)
      (first :: second :: more)
    rw [← List.dropLast_eq_take] at cut
    refine ⟨parts, (first :: second :: more).dropLast, _, ?_, lower,
      ⟨List.cons_ne_nil _ _, ?_⟩, rfl⟩
    · rw [List.append_nil, List.append_assoc, cut]
    · exact fun type membership => upper type (List.dropLast_subset _ membership)
  · next _ nonempty _ =>
    exact .inr ⟨parts, types, members, (List.append_assoc ..).symm, lower, ⟨nonempty, upper⟩, rfl⟩

end Demangler

end SymbolFootprint
