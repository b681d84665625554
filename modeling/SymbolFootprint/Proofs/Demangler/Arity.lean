import SymbolFootprint.Proofs.Demangler.Recovery

/-!
Numbers of type parameters behind an identifier.

There is one way to cut segments behind a root (`RootCut.unique`), so any cut tells what an
identifier is taken apart to (`roots_of_rootCut`). A number behind the last segment joins it in the
member (`RootCut.append_number`). So it leaves namespace and type as they were, as long as the
identifier does not end in a number that has joined the member already (`roots_append_number`).
-/

namespace SymbolFootprint

/-- A number of type parameters: at least one decimal digit, and nothing else. -/
structure IsNumber (text : String) : Prop where
  nonempty : text ≠ ""
  digits : ∀ c ∈ text.toList, c.isDigit = true

instance (text : String) : Decidable (IsNumber text) :=
  decidable_of_iff (Demangler.isArity text = true) (Demangler.isArity_iff.trans
    ⟨fun ⟨nonempty, digits⟩ => ⟨nonempty, digits⟩,
      fun isNumber => ⟨isNumber.nonempty, isNumber.digits⟩⟩)

namespace Rules

variable {rules : Rules} {identifier : String}

theorem segments_of_not_mem {segment : String} (absent : rules.delimiter ∉ segment.toList) :
    rules.segments segment = [segment] := by
  have single := segments_joined (List.cons_ne_nil segment [])
    (List.forall_mem_singleton.mpr absent)
  rwa [joined_singleton] at single

theorem TrustsRoot.append (trusted : rules.TrustsRoot identifier) {more : String}
    (unreserved : ¬ rules.Reserves (identifier ++ String.singleton rules.delimiter ++ more)) :
    rules.TrustsRoot (identifier ++ String.singleton rules.delimiter ++ more) where
  unreserved := unreserved
  long := by
    rw [rules.segments_append, List.length_append]
    exact Nat.le_add_right_of_le trusted.long
  known := by
    obtain ⟨root, head, known⟩ := trusted.known
    refine ⟨root, ?_, known⟩
    rw [rules.segments_append, List.head?_append, Option.mem_def.mp head]
    rfl

end Rules

namespace Demangler

namespace RootCut

variable {segments parts members : List String} {type : String}
  (cut : RootCut segments parts type members)

include cut

theorem unique {otherParts otherMembers : List String} {otherType : String}
    (other : RootCut segments otherParts otherType otherMembers) :
    parts = otherParts ∧ type = otherType ∧ members = otherMembers := by
  have whole : parts ++ type :: members = otherParts ++ otherType :: otherMembers :=
    cut.whole.trans other.whole.symm
  have lengths : (type :: members).length = (otherType :: otherMembers).length := by
    rw [List.length_cons, List.length_cons, cut.length, other.length]
  obtain ⟨sameParts, rest⟩ := List.append_inj' whole lengths
  exact ⟨sameParts, List.cons.inj rest⟩

/-- The segment in front of the number goes to the member again, and the number with it. -/
theorem append_number (long : 3 ≤ segments.length) (keeps : ¬ EndsInArity segments)
    {number : String} (isNumber : IsNumber number) :
    RootCut (segments ++ [number]) parts type (members ++ [number]) where
  whole := by rw [← cut.whole, List.append_assoc, List.cons_append]
  nonempty := cut.nonempty
  length := by
    have folds : EndsInArity (segments ++ [number]) := by
      refine ⟨?_, number, List.getLast?_concat, isNumber.nonempty, isNumber.digits⟩
      rw [List.length_append, List.length_singleton]
      omega
    rw [if_pos folds, List.length_append, cut.length, if_neg keeps, List.length_singleton]

end RootCut

variable {rules : Rules} {identifier : String}

/-- A cut of its segments tells what a trusted identifier is taken apart to. -/
theorem roots_of_rootCut (trusted : rules.TrustsRoot identifier) {parts members : List String}
    {type : String} (cut : RootCut (rules.segments identifier) parts type members) :
    Demangler.roots.demangle rules identifier = ⟨dotted parts, type, rules.joined members⟩ := by
  obtain ⟨ownParts, ownType, ownMembers, own, _, taken⟩ := roots_of_trusted trusted
  obtain ⟨rfl, rfl, rfl⟩ := own.unique cut
  exact taken

/-- A number behind an identifier is added to the member. Namespace and type stay the same, unless
the identifier itself ends in a number that was added in this way. -/
theorem roots_append_number (trusted : rules.TrustsRoot identifier)
    (keeps : ¬ EndsInArity (rules.segments identifier)) {number : String}
    (isNumber : IsNumber number) (absent : rules.delimiter ∉ number.toList)
    (unreserved : ¬ rules.Reserves (identifier ++ String.singleton rules.delimiter ++ number)) :
    let shorter := Demangler.roots.demangle rules identifier
    Demangler.roots.demangle rules (identifier ++ String.singleton rules.delimiter ++ number) =
      { shorter with
        member := shorter.member ++ String.singleton rules.delimiter ++ number } := by
  intro shorter
  obtain ⟨parts, type, members, cut, _, taken⟩ := roots_of_trusted trusted
  have nonempty : members ≠ [] := by
    apply List.ne_nil_of_length_pos
    rw [cut.length, if_neg keeps]
    exact Nat.one_pos
  have segments : rules.segments (identifier ++ String.singleton rules.delimiter ++ number) =
      rules.segments identifier ++ [number] := by
    rw [rules.segments_append, Rules.segments_of_not_mem absent]
  have longer := cut.append_number trusted.long keeps isNumber
  rw [← segments] at longer
  have joined : rules.joined (members ++ [number]) =
      rules.joined members ++ String.singleton rules.delimiter ++ number := by
    rw [rules.joined_append nonempty (List.cons_ne_nil number []), rules.joined_singleton]
  have same : shorter = ⟨dotted parts, type, rules.joined members⟩ := taken
  rw [roots_of_rootCut (trusted.append unreserved) longer, joined, same]

/-- Three segments do not fold a number at their end, so a second number makes a member of both. -/
theorem roots_append_number_twice :
    let rules := Rules.standard
    rules.TrustsRoot "System_List_1" ∧ ¬ EndsInArity (rules.segments "System_List_1") ∧
    IsNumber "02" ∧ rules.delimiter ∉ "02".toList ∧ ¬ rules.Reserves "System_List_1_02" ∧
    Demangler.roots.demangle rules "System_List_1" = ⟨"System", "List", "1"⟩ ∧
    Demangler.roots.demangle rules "System_List_1_02" = ⟨"System", "List", "1_02"⟩ := by
  intro rules
  have trusted : rules.TrustsRoot "System_List_1" := by decide
  have keeps : ¬ EndsInArity (rules.segments "System_List_1") := by decide
  have isNumber : IsNumber "02" := by decide
  have absent : rules.delimiter ∉ "02".toList := by decide
  have unreserved : ¬ rules.Reserves "System_List_1_02" := by decide
  have taken : Demangler.roots.demangle rules "System_List_1" = ⟨"System", "List", "1"⟩ := by
    decide
  have longer := roots_append_number trusted keeps isNumber absent unreserved
  rw [taken] at longer
  exact ⟨trusted, keeps, isNumber, absent, unreserved, taken, longer⟩

end Demangler

end SymbolFootprint
