import SymbolFootprint.Proofs.Demangler.Keys
import SymbolFootprint.Proofs.Demangler.Segments

/-!
What the demangler that trusts root namespaces keeps of an identifier.

Behind a known root the segments are cut into namespace, type and member, and none is lost
(`splitByRoot_of_known`). All other identifiers stay whole in a bucket. So an identifier without
dots can be recovered from its attribution, as long as no bucket is mistaken for a namespace
(`roots_lossless`).
-/

namespace SymbolFootprint

theorem Demangler.isArity_iff {segment : String} :
    isArity segment = true ↔ segment ≠ "" ∧ ∀ c ∈ segment.toList, c.isDigit = true := by
  rw [isArity, Bool.and_eq_true, decide_eq_true_eq, List.all_eq_true]
  rfl

/-- The last segment is a number of type parameters, and there are enough segments to leave a
namespace and a type when it goes to the member before it. -/
def EndsInArity (segments : List String) : Prop :=
  4 ≤ segments.length ∧
    ∃ last ∈ segments.getLast?, last ≠ "" ∧ ∀ c ∈ last.toList, c.isDigit = true

instance (segments : List String) : Decidable (EndsInArity segments) :=
  decidable_of_iff (4 ≤ segments.length ∧ segments.getLast?.any Demangler.isArity = true) (by
    rw [EndsInArity, Option.any_eq_true]
    simp only [Demangler.isArity_iff, Option.mem_def])

namespace Rules

theorem head_isKnownRoot_iff {rules : Rules} {segments : List String} :
    segments.head?.any rules.isKnownRoot = true ↔ ∃ root ∈ segments.head?, root ∈ rules.roots := by
  simp only [Option.any_eq_true, isKnownRoot, List.contains_iff_mem, Option.mem_def]

/-- The identifier is one that is taken apart behind its root. -/
structure TrustsRoot (rules : Rules) (identifier : String) : Prop where
  unreserved : ¬ rules.Reserves identifier
  long : 3 ≤ (rules.segments identifier).length
  known : ∃ root ∈ (rules.segments identifier).head?, root ∈ rules.roots

instance (rules : Rules) (identifier : String) : Decidable (rules.TrustsRoot identifier) :=
  decidable_of_iff (¬ rules.Reserves identifier ∧ 3 ≤ (rules.segments identifier).length ∧
      (rules.segments identifier).head?.any rules.isKnownRoot = true)
    ⟨fun ⟨unreserved, long, known⟩ => ⟨unreserved, long, head_isKnownRoot_iff.mp known⟩,
      fun trusted => ⟨trusted.unreserved, trusted.long, head_isKnownRoot_iff.mpr trusted.known⟩⟩

/-- The names of all buckets that an identifier can go to. -/
def bucketNames (rules : Rules) : List String :=
  rules.reserved.map ReservedPrefix.bucket ++ [globalBucket, unknownBucket]

end Rules

namespace Demangler

theorem endsInArity_iff_of_reverse {segments rest : List String} {last : String}
    (reversed : segments.reverse = last :: rest) :
    EndsInArity segments ↔ 3 ≤ rest.length ∧ isArity last = true := by
  have forward : segments = rest.reverse ++ [last] := by
    rw [← List.reverse_cons, ← reversed, List.reverse_reverse]
  rw [EndsInArity, forward, List.getLast?_concat, isArity_iff]
  simp

/-- Segments cut behind a root, into those of the namespace, the type, and one or two segments of
the member. -/
structure RootCut (segments parts : List String) (type : String) (members : List String) :
    Prop where
  whole : parts ++ type :: members = segments
  nonempty : parts ≠ []
  length : members.length = if EndsInArity segments then 2 else 1

theorem splitByRoot_of_known {rules : Rules} {segments : List String}
    (known : ∃ root ∈ segments.head?, root ∈ rules.roots) (long : 3 ≤ segments.length) :
    ∃ parts type members, RootCut segments parts type members ∧
      splitByRoot rules segments = some ⟨dotted parts, type, rules.joined members⟩ := by
  rw [splitByRoot, if_pos (Rules.head_isKnownRoot_iff.mpr known)]
  rw [← List.length_reverse] at long
  match reversed : segments.reverse with
  | last :: member :: type :: part :: parts =>
    have forward := List.reverse_eq_iff.mp reversed
    have arity := endsInArity_iff_of_reverse reversed
    dsimp only
    split
    · next isNumber =>
      have folds : EndsInArity segments := arity.mpr ⟨by simp, isNumber⟩
      refine ⟨(part :: parts).reverse, type, [member, last], ⟨?_, by simp, ?_⟩, rfl⟩
      · simp [forward]
      · rw [if_pos folds]
        rfl
    · next noNumber =>
      have keeps : ¬ EndsInArity segments := fun folds => noNumber (arity.mp folds).2
      refine ⟨(type :: part :: parts).reverse, member, [last], ⟨?_, by simp, ?_⟩, ?_⟩
      · simp [forward]
      · rw [if_neg keeps]
        rfl
      · rw [rules.joined_singleton]
  | [last, type, part] =>
    have keeps : ¬ EndsInArity segments := fun folds =>
      absurd ((endsInArity_iff_of_reverse reversed).mp folds).1 (by simp)
    refine ⟨[part], type, [last], ⟨?_, by simp, ?_⟩, ?_⟩
    · simp [List.reverse_eq_iff.mp reversed]
    · rw [if_neg keeps]
      rfl
    · rw [rules.joined_singleton, dotted_singleton]
  | [_, _] => rw [reversed] at long; simp at long
  | [_] => rw [reversed] at long; simp at long
  | [] => rw [reversed] at long; simp at long

theorem splitByRoot_of_short {segments : List String} (rules : Rules)
    (short : segments.length < 3) : splitByRoot rules segments = none := by
  rw [← List.length_reverse] at short
  rw [splitByRoot]
  split
  · match reversed : segments.reverse with
    | _ :: _ :: _ :: _ =>
      rw [reversed] at short
      simp only [List.length_cons] at short
      omega
    | [_, _] => rfl
    | [_] => rfl
    | [] => rfl
  · rfl

variable {rules : Rules} {identifier : String}

/-- An identifier behind a known root is cut into parts in which all its segments are found. -/
theorem roots_of_trusted (trusted : rules.TrustsRoot identifier) :
    ∃ parts type members, RootCut (rules.segments identifier) parts type members ∧
      rules.segments (rules.joined members) = members ∧
      Demangler.roots.demangle rules identifier =
        ⟨dotted parts, type, rules.joined members⟩ := by
  obtain ⟨parts, type, members, cut, split⟩ := splitByRoot_of_known trusted.known trusted.long
  refine ⟨parts, type, members, cut, ?_, ?_⟩
  · apply Rules.segments_joined
    · apply List.ne_nil_of_length_pos
      rw [cut.length]
      split <;> decide
    · intro segment membership
      have inside : segment ∈ rules.segments identifier :=
        cut.whole ▸ List.mem_append_right _ (List.mem_cons_of_mem _ membership)
      exact Rules.delimiter_not_mem inside
  · have long := trusted.long
    rw [demangle_of_unreserved .roots trusted.unreserved (by omega), structured?, split]
    rfl

theorem roots_of_untrusted (untrusted : ¬ rules.TrustsRoot identifier) :
    ∃ name ∈ rules.bucketNames,
      Demangler.roots.demangle rules identifier = .bucket name identifier := by
  by_cases reserved : rules.Reserves identifier
  · obtain ⟨entry, membership, bucket⟩ := demangle_of_reserved .roots reserved
    exact ⟨entry.bucket, List.mem_append_left _ (List.mem_map_of_mem membership), bucket⟩
  · by_cases long : 2 ≤ (rules.segments identifier).length
    · refine ⟨Rules.unknownBucket, by simp [Rules.bucketNames], ?_⟩
      have none : splitByRoot rules (rules.segments identifier) = none := by
        by_cases known : ∃ root ∈ (rules.segments identifier).head?, root ∈ rules.roots
        · apply splitByRoot_of_short
          apply Nat.not_le.mp
          exact fun enough => untrusted ⟨reserved, enough, known⟩
        · exact if_neg (known ∘ Rules.head_isKnownRoot_iff.mp)
      rw [demangle_of_unreserved .roots reserved long, structured?, none]
      rfl
    · refine ⟨Rules.globalBucket, by simp [Rules.bucketNames], ?_⟩
      exact demangle_of_short .roots reserved (Nat.not_le.mp long)

theorem roots_ne_bucket (trusted : rules.TrustsRoot identifier) {name other : String}
    (apart : ∀ root ∈ rules.roots, ¬ root.toList <+: name.toList) :
    Demangler.roots.demangle rules identifier ≠ .bucket name other := by
  obtain ⟨parts, type, members, cut, _, taken⟩ := roots_of_trusted trusted
  obtain ⟨root, head, known⟩ := trusted.known
  obtain ⟨rest, rfl⟩ := exists_cons_of_head? head cut.whole.symm cut.nonempty
  intro same
  rw [taken] at same
  have scope : dotted (root :: rest) = name := congrArg Attribution.scope same
  exact apart root known (scope ▸ toList_prefix_dotted root rest)

/-- Identifiers without dots that are taken apart alike are the same. -/
theorem roots_inj_of_trusted {other : String} (trusted : rules.TrustsRoot identifier)
    (otherTrusted : rules.TrustsRoot other) (noDot : '.' ∉ identifier.toList)
    (otherNoDot : '.' ∉ other.toList)
    (same : Demangler.roots.demangle rules identifier = Demangler.roots.demangle rules other) :
    identifier = other := by
  obtain ⟨parts, type, members, cut, read, taken⟩ := roots_of_trusted trusted
  obtain ⟨otherParts, otherType, otherMembers, otherCut, otherRead, otherTaken⟩ :=
    roots_of_trusted otherTrusted
  rw [taken, otherTaken, Attribution.mk.injEq] at same
  obtain ⟨scopes, rfl, joins⟩ := same
  have noDots : ∀ part ∈ parts, '.' ∉ part.toList := fun part membership =>
    Rules.not_mem_segment noDot (cut.whole ▸ List.mem_append_left _ membership)
  have otherNoDots : ∀ part ∈ otherParts, '.' ∉ part.toList := fun part membership =>
    Rules.not_mem_segment otherNoDot (otherCut.whole ▸ List.mem_append_left _ membership)
  have sameParts : parts = otherParts :=
    Rules.joinedBy_inj cut.nonempty otherCut.nonempty noDots otherNoDots scopes
  have sameMembers : members = otherMembers := by rw [← read, ← otherRead, joins]
  apply rules.segments_injective
  rw [← cut.whole, ← otherCut.whole, sameParts, sameMembers]

/-- The demangler that trusts root namespaces loses nothing. Behind a known root, the segments of
the namespace, the type and the member are those of the identifier, in order; every other identifier
is the member in a bucket. Where no bucket is named like a root, identifiers without dots have
attributions of their own. -/
theorem roots_lossless (rules : Rules) :
    (∀ identifier, rules.TrustsRoot identifier →
      ∃ parts type member,
        Demangler.roots.demangle rules identifier = ⟨dotted parts, type, member⟩ ∧ parts ≠ [] ∧
        parts ++ [type] ++ rules.segments member = rules.segments identifier ∧
        (rules.segments member).length =
          if EndsInArity (rules.segments identifier) then 2 else 1) ∧
    (∀ identifier, ¬ rules.TrustsRoot identifier →
      ∃ name ∈ rules.bucketNames,
        Demangler.roots.demangle rules identifier = .bucket name identifier) ∧
    ((∀ name ∈ rules.bucketNames, ∀ root ∈ rules.roots, ¬ root.toList <+: name.toList) →
      ∀ first second : String, '.' ∉ first.toList → '.' ∉ second.toList → first ≠ second →
        Demangler.roots.demangle rules first ≠ Demangler.roots.demangle rules second) := by
  refine ⟨?_, fun _ => roots_of_untrusted, ?_⟩
  · intro identifier trusted
    obtain ⟨parts, type, members, cut, read, taken⟩ := roots_of_trusted trusted
    refine ⟨parts, type, rules.joined members, taken, cut.nonempty, ?_, ?_⟩
    · rw [read, List.append_assoc]
      exact cut.whole
    · rw [read]
      exact cut.length
  · intro apart first second noDot otherNoDot differ same
    by_cases trusted : rules.TrustsRoot first
    · by_cases otherTrusted : rules.TrustsRoot second
      · exact differ (roots_inj_of_trusted trusted otherTrusted noDot otherNoDot same)
      · obtain ⟨name, membership, bucket⟩ := roots_of_untrusted otherTrusted
        exact roots_ne_bucket trusted (apart name membership) (same.trans bucket)
    · obtain ⟨name, membership, bucket⟩ := roots_of_untrusted trusted
      by_cases otherTrusted : rules.TrustsRoot second
      · exact roots_ne_bucket otherTrusted (apart name membership) (same.symm.trans bucket)
      · obtain ⟨otherName, _, otherBucket⟩ := roots_of_untrusted otherTrusted
        rw [bucket, otherBucket] at same
        exact differ (congrArg Attribution.member same)

/-- Two delimiters in a row leave an empty type, and the number at the end goes to the member. -/
theorem roots_lossless_doubled :
    let rules := Rules.standard
    rules.TrustsRoot "System__List_1" ∧ ¬ rules.TrustsRoot "System_List" ∧
    (∀ name ∈ rules.bucketNames, ∀ root ∈ rules.roots, ¬ root.toList <+: name.toList) ∧
    (∃ parts type member,
      Demangler.roots.demangle rules "System__List_1" = ⟨dotted parts, type, member⟩ ∧
      parts ≠ [] ∧
      parts ++ [type] ++ rules.segments member = ["System", "", "List", "1"] ∧
      (rules.segments member).length = 2) ∧
    (∃ name ∈ rules.bucketNames,
      Demangler.roots.demangle rules "System_List" = .bucket name "System_List") ∧
    Demangler.roots.demangle rules "System__List_1" ≠
      Demangler.roots.demangle rules "System_List_1" := by
  intro rules
  have trusted : rules.TrustsRoot "System__List_1" := by decide
  have untrusted : ¬ rules.TrustsRoot "System_List" := by decide
  have apart : ∀ name ∈ rules.bucketNames, ∀ root ∈ rules.roots,
      ¬ root.toList <+: name.toList := by decide
  have segments : rules.segments "System__List_1" = ["System", "", "List", "1"] := by rfl
  have folds : EndsInArity (rules.segments "System__List_1") := by decide
  obtain ⟨taken, kept, injective⟩ := roots_lossless rules
  have parts := taken "System__List_1" trusted
  rw [if_pos folds, segments] at parts
  exact ⟨trusted, untrusted, apart, parts, kept "System_List" untrusted,
    injective apart "System__List_1" "System_List_1" (by decide) (by decide) (by decide)⟩

end Demangler

end SymbolFootprint
