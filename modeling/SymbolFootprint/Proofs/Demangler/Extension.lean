import SymbolFootprint.Proofs.Demangler.Recovery

/-!
What more rules change.

An attribution depends on the rules through the reserved prefix that fits the identifier, the
delimiter, and the demangler's own way with the identifier where no prefix fits (`demangle_congr`).
More roots leave prefixes and delimiter as they are (`exists_withRoots`), so they only matter to
identifiers that begin with one of them and have enough segments (`GainsRoot`). One more prefix only
matters where no earlier one fits (`reserved?_withReservedPrefix`). So more rules change just what
they are about (`extension_conservative`).
-/

namespace SymbolFootprint

namespace Rules

/-- The rules with more roots, added one after the other. -/
def withRoots (rules : Rules) (added : List String) : Rules :=
  added.foldl withRoot rules

/-- More roots leave all other rules as they are. -/
theorem exists_withRoots (rules : Rules) (added : List String) :
    ∃ roots, rules.withRoots added = { rules with roots } := by
  induction added generalizing rules with
  | nil => exact ⟨rules.roots, rfl⟩
  | cons root added inductionHypothesis =>
    obtain ⟨roots, same⟩ := inductionHypothesis (rules.withRoot root)
    exact ⟨roots, same⟩

theorem isKnownRoot_withRoots (rules : Rules) (added : List String) (segment : String) :
    (rules.withRoots added).isKnownRoot segment =
      (added.contains segment || rules.isKnownRoot segment) := by
  induction added generalizing rules with
  | nil => rfl
  | cons root added inductionHypothesis =>
    have later := inductionHypothesis (rules.withRoot root)
    rw [isKnownRoot_withRoot] at later
    rw [withRoots, List.foldl_cons, ← withRoots, later, List.contains_cons]
    ac_rfl

theorem mem_roots_withRoots {rules : Rules} {added : List String} {segment : String} :
    segment ∈ (rules.withRoots added).roots ↔ segment ∈ added ∨ segment ∈ rules.roots := by
  rw [← List.contains_iff_mem, ← isKnownRoot, isKnownRoot_withRoots, Bool.or_eq_true, isKnownRoot,
    List.contains_iff_mem, List.contains_iff_mem]

/-- The identifier is long enough to be taken apart behind one of the added roots, which was no root
before. -/
structure GainsRoot (rules : Rules) (added : List String) (identifier : String) : Prop where
  unreserved : ¬ rules.Reserves identifier
  long : 3 ≤ (rules.segments identifier).length
  gained : ∃ root ∈ (rules.segments identifier).head?, root ∈ added ∧ root ∉ rules.roots

namespace GainsRoot

variable {rules : Rules} {added : List String} {identifier : String}
  (gains : rules.GainsRoot added identifier)

include gains

theorem unknown : ¬ ∃ root ∈ (rules.segments identifier).head?, root ∈ rules.roots := by
  obtain ⟨root, head, _, isNew⟩ := gains.gained
  rintro ⟨other, otherHead, known⟩
  obtain rfl := Option.mem_unique head otherHead
  exact isNew known

theorem trusted : (rules.withRoots added).TrustsRoot identifier := by
  obtain ⟨root, head, isAdded, _⟩ := gains.gained
  have known : root ∈ (rules.withRoots added).roots := mem_roots_withRoots.mpr (.inl isAdded)
  obtain ⟨roots, same⟩ := rules.exists_withRoots added
  rw [same] at known ⊢
  exact ⟨gains.unreserved, gains.long, root, head, known⟩

end GainsRoot

/-- An added prefix is tried where none of the earlier ones fits. -/
theorem reserved?_withReservedPrefix (rules : Rules) (start bucket identifier : String) :
    (rules.withReservedPrefix start bucket).reserved? identifier =
      (rules.reserved? identifier).or
        (if start.toList <+: identifier.toList then some (.bucket bucket identifier)
        else none) := by
  rw [reserved?, reservedPrefix?, withReservedPrefix, List.find?_append, reserved?,
    ← reservedPrefix?, Option.map_or, List.find?_singleton]
  simp only [List.isPrefixOf_iff_prefix]
  split <;> rfl

end Rules

namespace Demangler

variable {first second : Rules} {identifier : String}

/-- Rules with the same delimiter and the same bucket for an identifier make the same of it, if the
demangler's own way with it is the same. This way does not matter where there is a bucket. -/
theorem demangle_congr {demangler : Demangler} (delimiter : first.delimiter = second.delimiter)
    (reserved : first.reserved? identifier = second.reserved? identifier)
    (structured : second.reserved? identifier = none →
      demangler.structured? first identifier = demangler.structured? second identifier) :
    demangler.demangle first identifier = demangler.demangle second identifier := by
  have short : first.tooShort? identifier = second.tooShort? identifier := by
    rw [Rules.tooShort?, Rules.tooShort?, Rules.segments, Rules.segments, delimiter]
  rw [demangle, demangle, reserved, short]
  cases found : second.reserved? identifier with
  | some attribution => rfl
  | none => rw [structured found]

theorem splitByRoot_congr {segments : List String} (delimiter : first.delimiter = second.delimiter)
    (known : 3 ≤ segments.length →
      segments.head?.any first.isKnownRoot = segments.head?.any second.isKnownRoot) :
    splitByRoot first segments = splitByRoot second segments := by
  by_cases long : 3 ≤ segments.length
  · rw [splitByRoot, known long, splitByRoot]
    simp only [Rules.joined, delimiter]
  · rw [splitByRoot_of_short first (Nat.not_le.mp long),
      splitByRoot_of_short second (Nat.not_le.mp long)]

section Roots

variable (rules : Rules) (added : List String) (identifier : String)

theorem casing_withRoots :
    Demangler.casing.demangle (rules.withRoots added) identifier =
      Demangler.casing.demangle rules identifier := by
  obtain ⟨roots, same⟩ := rules.exists_withRoots added
  rw [same]
  exact demangle_congr rfl rfl fun _ => rfl

variable {rules added identifier}

theorem isKnownRoot_of_not_gains (unreserved : ¬ rules.Reserves identifier)
    (unchanged : ¬ rules.GainsRoot added identifier)
    (long : 3 ≤ (rules.segments identifier).length) :
    (rules.segments identifier).head?.any (rules.withRoots added).isKnownRoot =
      (rules.segments identifier).head?.any rules.isKnownRoot := by
  rw [Bool.eq_iff_iff, Rules.head_isKnownRoot_iff, Rules.head_isKnownRoot_iff]
  constructor
  · rintro ⟨root, head, known⟩
    refine ⟨root, head, ?_⟩
    rcases Rules.mem_roots_withRoots.mp known with isAdded | isRoot
    · by_contra isNew
      exact unchanged ⟨unreserved, long, root, head, isAdded, isNew⟩
    · exact isRoot
  · rintro ⟨root, head, isRoot⟩
    exact ⟨root, head, Rules.mem_roots_withRoots.mpr (.inr isRoot)⟩

theorem roots_of_not_gains (unchanged : ¬ rules.GainsRoot added identifier) :
    Demangler.roots.demangle (rules.withRoots added) identifier =
      Demangler.roots.demangle rules identifier := by
  have known := fun unreserved => isKnownRoot_of_not_gains unreserved unchanged
  obtain ⟨roots, same⟩ := rules.exists_withRoots added
  rw [same] at known ⊢
  refine demangle_congr rfl rfl fun unreserved => ?_
  exact splitByRoot_congr rfl (known (Rules.reserved?_eq_none_iff.mp unreserved))

theorem roots_of_unknown (unreserved : ¬ rules.Reserves identifier)
    (long : 2 ≤ (rules.segments identifier).length)
    (unknown : ¬ ∃ root ∈ (rules.segments identifier).head?, root ∈ rules.roots) :
    Demangler.roots.demangle rules identifier = Rules.unmatched identifier := by
  have none : splitByRoot rules (rules.segments identifier) = none :=
    if_neg (unknown ∘ Rules.head_isKnownRoot_iff.mp)
  rw [demangle_of_unreserved .roots unreserved long, structured?, none]
  rfl

/-- Behind an added root, the identifier is cut as behind any other root. -/
theorem roots_of_gains (gains : rules.GainsRoot added identifier) :
    ∃ parts type members, RootCut (rules.segments identifier) parts type members ∧
      Demangler.roots.demangle (rules.withRoots added) identifier =
        ⟨dotted parts, type, rules.joined members⟩ := by
  obtain ⟨parts, type, members, cut, _, taken⟩ := roots_of_trusted gains.trusted
  obtain ⟨roots, same⟩ := rules.exists_withRoots added
  rw [same] at cut taken ⊢
  exact ⟨parts, type, members, cut, taken⟩

end Roots

section Prefixes

variable (demangler : Demangler) {rules : Rules} {start : String} (bucket : String)
  {identifier : String}

theorem demangle_of_added_prefix (fits : start.toList <+: identifier.toList)
    (unreserved : ¬ rules.Reserves identifier) :
    demangler.demangle (rules.withReservedPrefix start bucket) identifier =
      .bucket bucket identifier := by
  rw [demangle, Rules.reserved?_withReservedPrefix, if_pos fits,
    Rules.reserved?_eq_none_iff.mpr unreserved]
  rfl

theorem demangle_of_other_prefix
    (other : ¬ (start.toList <+: identifier.toList ∧ ¬ rules.Reserves identifier)) :
    demangler.demangle (rules.withReservedPrefix start bucket) identifier =
      demangler.demangle rules identifier := by
  have same : (rules.withReservedPrefix start bucket).reserved? identifier =
      rules.reserved? identifier := by
    rw [Rules.reserved?_withReservedPrefix]
    cases found : rules.reserved? identifier with
    | some attribution => rfl
    | none =>
      have unfit := fun fits => other ⟨fits, Rules.reserved?_eq_none_iff.mp found⟩
      rw [if_neg unfit, Option.none_or]
  refine demangle_congr rfl same fun _ => ?_
  cases demangler <;> rfl

end Prefixes

/-- More rules change just what they are about. The demangler by case does not look at roots. The
demangler by roots changes its mind on identifiers that gain a root: it did not know them before,
and takes them apart now. A prefix behind the others takes just the identifiers that it fits and
none of the others does. -/
theorem extension_conservative (rules : Rules) :
    (∀ added identifier,
      Demangler.casing.demangle (rules.withRoots added) identifier =
        Demangler.casing.demangle rules identifier) ∧
    (∀ added identifier, ¬ rules.GainsRoot added identifier →
      Demangler.roots.demangle (rules.withRoots added) identifier =
        Demangler.roots.demangle rules identifier) ∧
    (∀ added identifier, rules.GainsRoot added identifier →
      Demangler.roots.demangle rules identifier = Rules.unmatched identifier ∧
      ∃ parts type members, RootCut (rules.segments identifier) parts type members ∧
        Demangler.roots.demangle (rules.withRoots added) identifier =
          ⟨dotted parts, type, rules.joined members⟩) ∧
    (∀ (demangler : Demangler) (start bucket identifier : String),
      ¬ (start.toList <+: identifier.toList ∧ ¬ rules.Reserves identifier) →
      demangler.demangle (rules.withReservedPrefix start bucket) identifier =
        demangler.demangle rules identifier) ∧
    (∀ (demangler : Demangler) (start bucket identifier : String),
      start.toList <+: identifier.toList → ¬ rules.Reserves identifier →
      demangler.demangle (rules.withReservedPrefix start bucket) identifier =
        .bucket bucket identifier) := by
  refine ⟨casing_withRoots rules, fun _ _ => roots_of_not_gains, ?_, ?_, ?_⟩
  · intro added identifier gains
    have long := gains.long
    exact ⟨roots_of_unknown gains.unreserved (by omega) gains.unknown, roots_of_gains gains⟩
  · intro demangler start bucket identifier other
    exact demangle_of_other_prefix demangler bucket other
  · intro demangler start bucket identifier fits unreserved
    exact demangle_of_added_prefix demangler bucket fits unreserved

/-- A root that is added twice, beside one that was known, and two prefixes of which one comes too
late. -/
theorem extension_conservative_repeated :
    let rules := Rules.standard
    let added := ["Contoso", "System", "Contoso"]
    let extended := rules.withRoots added
    ¬ rules.GainsRoot added "System_List_1" ∧ rules.GainsRoot added "Contoso_App_Main" ∧
    Demangler.casing.demangle extended "Contoso_App_Main" =
      Demangler.casing.demangle rules "Contoso_App_Main" ∧
    Demangler.roots.demangle extended "System_List_1" =
      Demangler.roots.demangle rules "System_List_1" ∧
    Demangler.roots.demangle rules "Contoso_App_Main" = Rules.unmatched "Contoso_App_Main" ∧
    (∃ parts type members, RootCut ["Contoso", "App", "Main"] parts type members ∧
      Demangler.roots.demangle extended "Contoso_App_Main" =
        ⟨dotted parts, type, rules.joined members⟩) ∧
    Demangler.roots.demangle (rules.withReservedPrefix "mono_aot_" "[Aot]") "mono_aot_init" =
      .bucket Rules.runtimeBucket "mono_aot_init" ∧
    Demangler.casing.demangle (rules.withReservedPrefix "System_" "[Base]") "System_List_1" =
      .bucket "[Base]" "System_List_1" := by
  intro rules added extended
  have keeps : ¬ rules.GainsRoot added "System_List_1" := fun gains =>
    gains.unknown ⟨"System", by decide, by decide⟩
  have gains : rules.GainsRoot added "Contoso_App_Main" :=
    ⟨by decide, by decide, "Contoso", by decide, by decide, by decide⟩
  have segments : rules.segments "Contoso_App_Main" = ["Contoso", "App", "Main"] := by rfl
  obtain ⟨byCase, unchanged, changed, late, first⟩ := extension_conservative rules
  obtain ⟨before, after⟩ := changed added _ gains
  rw [segments] at after
  have reserved : Demangler.roots.demangle rules "mono_aot_init" =
      .bucket Rules.runtimeBucket "mono_aot_init" := by decide
  refine ⟨keeps, gains, byCase added _, unchanged added _ keeps, before, after, ?_, ?_⟩
  · rw [late .roots "mono_aot_" "[Aot]" "mono_aot_init" (by decide), reserved]
  · exact first .casing "System_" "[Base]" "System_List_1" (by decide) (by decide)

end Demangler

end SymbolFootprint
