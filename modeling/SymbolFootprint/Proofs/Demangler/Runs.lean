import SymbolFootprint.Proofs.Demangler.Keys
import SymbolFootprint.Proofs.Demangler.Segments

/-!
Runs of segments by the case of their initial letters.

Every list of segments begins with a longest run in lower case, and behind it comes a longest run in
upper case (`exists_caseRuns`). The demangler by case makes the first the namespace and the second
the type, except that a longer run at the end leaves its last segment to the member
(`splitByCase_of_runs`). Where the run in upper case has stopped before the end, more segments only
make the member longer (`splitByCase_append`).
-/

namespace SymbolFootprint

/-- A beginning of a list whose members all pass, and that cannot be made longer. -/
structure IsLongestRun (passes : String → Bool) (run rest : List String) : Prop where
  inside : ∀ segment ∈ run, passes segment = true
  stops : ∀ segment ∈ rest.head?, passes segment = false

namespace IsLongestRun

variable {passes : String → Bool} {run rest : List String}

theorem of_takeWhile (passes : String → Bool) (segments : List String) :
    IsLongestRun passes (segments.takeWhile passes) (segments.dropWhile passes) := by
  refine ⟨fun _ membership => List.mem_takeWhile_imp membership, ?_⟩
  intro segment head
  have stop := List.head?_dropWhile_not passes segments
  rw [Option.mem_def.mp head] at stop
  exact stop

theorem append (longest : IsLongestRun passes run rest) (nonempty : rest ≠ [])
    (more : List String) : IsLongestRun passes run (rest ++ more) := by
  obtain ⟨next, others, rfl⟩ := List.exists_cons_of_ne_nil nonempty
  exact ⟨longest.inside, longest.stops⟩

variable (longest : IsLongestRun passes run rest)

include longest

theorem takeWhile_eq : (run ++ rest).takeWhile passes = run := by
  rw [List.takeWhile_append_of_pos longest.inside]
  cases rest with
  | nil => simp
  | cons next rest => simp [longest.stops next rfl]

theorem eq_nil_iff : run = [] ↔ ∀ next ∈ (run ++ rest).head?, passes next = false := by
  constructor
  · rintro rfl
    exact longest.stops
  · intro stops
    cases run with
    | nil => rfl
    | cons first run =>
      have fails := stops first rfl
      rw [longest.inside first (List.mem_cons_self ..)] at fails
      cases fails

theorem dropWhile_eq : (run ++ rest).dropWhile passes = rest := by
  rw [List.dropWhile_append_of_pos longest.inside]
  cases rest with
  | nil => rfl
  | cons next rest => simp [longest.stops next rfl]

end IsLongestRun

namespace Demangler

/-- Segments as a longest run in lower case, a longest run in upper case, and others. -/
structure CaseRuns (segments lowers uppers others : List String) : Prop where
  whole : lowers ++ (uppers ++ others) = segments
  lower : IsLongestRun (startsWith isAsciiLower) lowers (uppers ++ others)
  upper : IsLongestRun (startsWith isAsciiUpper) uppers others

/-- What the type and the member get of a run in upper case and the segments behind it: a run of two
or more at the end leaves its last segment to the member. -/
structure TypeCut (uppers others types members : List String) : Prop where
  whole : types ++ members = uppers ++ others
  nonempty : types ≠ []
  cut : if others = [] ∧ 2 ≤ uppers.length then members.length = 1 else members = others

theorem exists_caseRuns (segments : List String) :
    ∃ lowers uppers others, CaseRuns segments lowers uppers others := by
  let rest := segments.dropWhile (startsWith isAsciiLower)
  refine ⟨segments.takeWhile (startsWith isAsciiLower), rest.takeWhile (startsWith isAsciiUpper),
    rest.dropWhile (startsWith isAsciiUpper), ?_, ?_, .of_takeWhile _ rest⟩
  · rw [List.takeWhile_append_dropWhile, List.takeWhile_append_dropWhile]
  · rw [List.takeWhile_append_dropWhile]
    exact .of_takeWhile _ segments

theorem CaseRuns.append {segments lowers uppers others : List String}
    (runs : CaseRuns segments lowers uppers others) (stopped : others ≠ [])
    (more : List String) : CaseRuns (segments ++ more) lowers uppers (others ++ more) := by
  refine ⟨?_, ?_, runs.upper.append stopped more⟩
  · rw [← runs.whole]
    simp only [List.append_assoc]
  · rw [← List.append_assoc]
    exact runs.lower.append (List.append_ne_nil_of_right_ne_nil uppers stopped) more

theorem TypeCut.of_not_ends {uppers others : List String} (nonempty : uppers ≠ [])
    (stays : ¬ (others = [] ∧ 2 ≤ uppers.length)) : TypeCut uppers others uppers others := by
  refine ⟨rfl, nonempty, ?_⟩
  rw [if_neg stays]

theorem exists_typeCut {uppers : List String} (nonempty : uppers ≠ []) (others : List String) :
    ∃ types members, TypeCut uppers others types members := by
  by_cases ends : others = [] ∧ 2 ≤ uppers.length
  · refine ⟨uppers.dropLast, [uppers.getLast nonempty], ?_, ?_, ?_⟩
    · rw [List.dropLast_concat_getLast nonempty, ends.1, List.append_nil]
    · apply List.ne_nil_of_length_pos
      rw [List.length_dropLast]
      omega
    · rw [if_pos ends]
      rfl
  · exact ⟨uppers, others, .of_not_ends nonempty ends⟩

namespace TypeCut

variable {uppers others types members : List String} (cut : TypeCut uppers others types members)

include cut

/-- A run of two or more at the end gives up its last segment. -/
theorem eq_of_ends (ends : others = [] ∧ 2 ≤ uppers.length) :
    types = uppers.dropLast ∧ members = uppers.drop (uppers.length - 1) := by
  have single := cut.cut
  rw [if_pos ends] at single
  obtain ⟨member, rfl⟩ := List.length_eq_one_iff.mp single
  have whole := cut.whole
  rw [ends.1, List.append_nil] at whole
  subst whole
  simp

theorem eq_of_not_ends (stays : ¬ (others = [] ∧ 2 ≤ uppers.length)) :
    types = uppers ∧ members = others := by
  have same := cut.cut
  rw [if_neg stays] at same
  have whole := cut.whole
  rw [same, List.append_cancel_right_eq] at whole
  exact ⟨whole, same⟩

theorem types_subset : types ⊆ uppers := by
  by_cases ends : others = [] ∧ 2 ≤ uppers.length
  · rw [(cut.eq_of_ends ends).1]
    exact List.dropLast_subset uppers
  · rw [(cut.eq_of_not_ends ends).1]
    exact List.Subset.refl uppers

theorem length_eq_one_of_members_eq_nil (none : members = []) : types.length = 1 := by
  have stays : ¬ (others = [] ∧ 2 ≤ uppers.length) := by
    intro ends
    have single := cut.cut
    rw [if_pos ends, none] at single
    cases single
  obtain ⟨rfl, rfl⟩ := cut.eq_of_not_ends stays
  have pos := List.length_pos_iff.mpr cut.nonempty
  have short : ¬ 2 ≤ types.length := fun long => stays ⟨none, long⟩
  omega

end TypeCut

section Splitting

variable (rules : Rules) (identifier : String) {segments lowers uppers others : List String}
  (runs : CaseRuns segments lowers uppers others)

include runs

theorem splitByCase_of_no_upper (none : uppers = []) :
    splitByCase rules identifier segments = ⟨"", identifier, ""⟩ := by
  subst none
  rw [splitByCase, ← runs.whole]
  simp only [runs.lower.dropWhile_eq, runs.upper.takeWhile_eq]

/-- The longest runs make up the namespace and the type. -/
theorem splitByCase_of_runs {types members : List String}
    (cut : TypeCut uppers others types members) :
    splitByCase rules identifier segments =
      ⟨dotted lowers, rules.joined types, rules.joined members⟩ := by
  rw [splitByCase, ← runs.whole]
  simp only [runs.lower.takeWhile_eq, runs.lower.dropWhile_eq, runs.upper.takeWhile_eq,
    runs.upper.dropWhile_eq]
  split
  · have empty := (cut.eq_of_not_ends (fun ends => absurd ends.2 (by simp))).1
    exact absurd empty cut.nonempty
  · obtain ⟨rfl, rfl⟩ := cut.eq_of_ends ⟨rfl, by simp⟩
    rfl
  · next _ short =>
    have stays : ¬ (others = [] ∧ 2 ≤ uppers.length) := by
      rintro ⟨last, long⟩
      match uppers, long with
      | first :: second :: more, _ => exact short first second more rfl last
    obtain ⟨rfl, rfl⟩ := cut.eq_of_not_ends stays
    rfl

/-- Segments behind a run that has stopped go to the member. -/
theorem splitByCase_append (run : uppers ≠ []) (stopped : others ≠ []) (longer more : String) :
    splitByCase rules longer (segments ++ rules.segments more) =
      { splitByCase rules identifier segments with
        member := (splitByCase rules identifier segments).member ++
          String.singleton rules.delimiter ++ more } := by
  have cut : TypeCut uppers others uppers others := .of_not_ends run fun ends => stopped ends.1
  have moreNonempty : others ++ rules.segments more ≠ [] :=
    List.append_ne_nil_of_left_ne_nil stopped _
  have longerCut : TypeCut uppers (others ++ rules.segments more) uppers
      (others ++ rules.segments more) := .of_not_ends run fun ends => moreNonempty ends.1
  rw [splitByCase_of_runs rules identifier runs cut,
    splitByCase_of_runs rules longer (runs.append stopped _) longerCut,
    rules.joined_append stopped (rules.segments_ne_nil more), rules.joined_segments]

end Splitting

theorem splitByCase_ne_unmatched (rules : Rules) {identifier : String} (nonempty : identifier ≠ "")
    (segments : List String) :
    splitByCase rules identifier segments ≠ Rules.unmatched identifier := by
  intro same
  rcases splitByCase_cases rules identifier segments with
    whole | ⟨parts, types, members, _, lower, _, taken⟩
  · rw [whole] at same
    exact nonempty (congrArg Attribution.member same).symm
  · rw [taken] at same
    have bracket : Rules.unknownBucket.toList.head? = some '[' := by decide
    exact dotted_ne_of_lower lower bracket (by decide) (congrArg Attribution.scope same)

/-- The demangler by case cuts an identifier at its longest runs. Where no segment in upper case
follows those in lower case, the identifier is a type as a whole. -/
theorem casing_runs {rules : Rules} {identifier : String}
    (unreserved : ¬ rules.Reserves identifier) (long : 2 ≤ (rules.segments identifier).length) :
    let attribution := Demangler.casing.demangle rules identifier
    attribution ≠ Rules.unmatched identifier ∧
    (∃ lowers uppers others, CaseRuns (rules.segments identifier) lowers uppers others) ∧
    ∀ lowers uppers others, CaseRuns (rules.segments identifier) lowers uppers others →
      ((∀ next ∈ (uppers ++ others).head?, startsWith isAsciiUpper next = false) →
        attribution = ⟨"", identifier, ""⟩) ∧
      ((∃ next ∈ (uppers ++ others).head?, startsWith isAsciiUpper next = true) →
        ∃ types members, TypeCut uppers others types members ∧
          (∀ type ∈ types, startsWith isAsciiUpper type = true) ∧
          (members = [] → types.length = 1) ∧
          attribution = ⟨dotted lowers, rules.joined types, rules.joined members⟩) ∧
      (uppers ≠ [] → others ≠ [] → ∀ more : String,
        ¬ rules.Reserves (identifier ++ String.singleton rules.delimiter ++ more) →
        Demangler.casing.demangle rules
            (identifier ++ String.singleton rules.delimiter ++ more) =
          { attribution with
            member := attribution.member ++ String.singleton rules.delimiter ++ more }) := by
  intro attribution
  have taken : attribution = splitByCase rules identifier (rules.segments identifier) := by
    exact demangle_of_unreserved .casing unreserved long
  have nonempty : identifier ≠ "" := by
    rintro rfl
    exact absurd long (by simp [Rules.segments, Text.split])
  refine ⟨taken ▸ splitByCase_ne_unmatched rules nonempty _, exists_caseRuns _, ?_⟩
  intro lowers uppers others runs
  rw [taken]
  refine ⟨?_, ?_, ?_⟩
  · intro noUpper
    exact splitByCase_of_no_upper rules identifier runs (runs.upper.eq_nil_iff.mpr noUpper)
  · rintro ⟨next, head, isUpper⟩
    have run : uppers ≠ [] := by
      intro none
      rw [runs.upper.eq_nil_iff.mp none next head] at isUpper
      cases isUpper
    obtain ⟨types, members, cut⟩ := exists_typeCut run others
    refine ⟨types, members, cut, ?_, cut.length_eq_one_of_members_eq_nil,
      splitByCase_of_runs rules identifier runs cut⟩
    exact fun type membership => runs.upper.inside type (cut.types_subset membership)
  · intro run stopped more longerUnreserved
    have longer : 2 ≤ (rules.segments
        (identifier ++ String.singleton rules.delimiter ++ more)).length := by
      rw [rules.segments_append, List.length_append]
      omega
    rw [demangle_of_unreserved .casing longerUnreserved longer, structured?,
      rules.segments_append]
    exact splitByCase_append rules identifier runs run stopped _ more

/-- A run in upper case that a number ends, and a longer identifier. -/
theorem casing_runs_numbered :
    let rules := Rules.standard
    let attribution : Attribution := ⟨"app", "Models_Order", "1"⟩
    ¬ rules.Reserves "app_Models_Order_1" ∧
    2 ≤ (rules.segments "app_Models_Order_1").length ∧
    CaseRuns (rules.segments "app_Models_Order_1") ["app"] ["Models", "Order"] ["1"] ∧
    Demangler.casing.demangle rules "app_Models_Order_1" = attribution ∧
    attribution ≠ Rules.unmatched "app_Models_Order_1" ∧
    Demangler.casing.demangle rules "app_Models_Order_1_Total" =
      { attribution with member := "1_Total" } := by
  intro rules attribution
  have unreserved : ¬ rules.Reserves "app_Models_Order_1" := by decide
  have long : 2 ≤ (rules.segments "app_Models_Order_1").length := by decide
  have runs : CaseRuns (rules.segments "app_Models_Order_1") ["app"] ["Models", "Order"] ["1"] :=
    ⟨by decide, ⟨by decide, by decide⟩, ⟨by decide, by decide⟩⟩
  have taken : Demangler.casing.demangle rules "app_Models_Order_1" = attribution := by decide
  obtain ⟨matched, _, cuts⟩ := casing_runs unreserved long
  have longer := (cuts _ _ _ runs).2.2 (by decide) (by decide) "Total" (by decide)
  rw [taken] at matched longer
  exact ⟨unreserved, long, runs, taken, matched, longer⟩

end Demangler

end SymbolFootprint
