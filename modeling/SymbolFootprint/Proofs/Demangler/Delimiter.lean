import SymbolFootprint.Proofs.Demangler.Arity
import SymbolFootprint.Proofs.Demangler.Runs

/-!
Rules with another delimiter.

An identifier can be written with another delimiter, as long as it does not hold that character
already. It then has the same segments under the rules with the other delimiter
(`Rules.segments_exchange`), and what is joined from segments is exchanged in the same way
(`Rules.joined_exchange`). Each decision on an identifier depends on its segments and on prefixes
without the two delimiters. So each of them comes out alike, and with them the attribution
(`Demangler.demangle_withDelimiter`).
-/

namespace SymbolFootprint

namespace Text

/-- The new character in place of the old one, and any other as it is. -/
def exchange (old new c : Char) : Char :=
  if c = old then new else c

section Exchange

variable {old new : Char} {text : List Char}

theorem map_exchange_of_not_mem (absent : old ∉ text) : text.map (exchange old new) = text := by
  have same : ∀ c ∈ text, exchange old new c = c := by
    intro c inside
    exact if_neg (ne_of_mem_of_not_mem inside absent)
  rw [List.map_congr_left same, List.map_id']

/-- A beginning that holds neither of the characters stands before an exchange as after it. -/
theorem prefix_map_exchange_iff {start : List Char} (noOld : old ∉ start) (noNew : new ∉ start) :
    start <+: text.map (exchange old new) ↔ start <+: text := by
  constructor
  · intro begins
    obtain ⟨front, isFront, rfl⟩ := List.prefix_map_iff.mp begins
    have noOldInFront : old ∉ front := by
      intro inside
      have exchanged := List.mem_map_of_mem (f := exchange old new) inside
      rw [exchange, if_pos rfl] at exchanged
      exact noNew exchanged
    rwa [map_exchange_of_not_mem noOldInFront]
  · intro begins
    have exchanged := begins.map (exchange old new)
    rwa [map_exchange_of_not_mem noOld] at exchanged

theorem split_map_exchange (absent : new ∉ text) :
    split new (text.map (exchange old new)) = split old text := by
  induction text with
  | nil => rfl
  | cons c rest inductionHypothesis =>
    rw [List.mem_cons, not_or] at absent
    rw [List.map_cons, split, split, exchange, inductionHypothesis absent.2]
    by_cases isOld : c = old
    · rw [if_pos isOld, if_pos rfl, if_pos isOld]
    · rw [if_neg isOld, if_neg (Ne.symm absent.1), if_neg isOld]

theorem map_exchange_join {pieces : List (List Char)} (absent : ∀ piece ∈ pieces, old ∉ piece) :
    (join [old] pieces).map (exchange old new) = join [new] pieces := by
  induction pieces with
  | nil => rfl
  | cons piece pieces inductionHypothesis =>
    obtain ⟨own, others⟩ := List.forall_mem_cons.mp absent
    cases pieces with
    | nil => exact map_exchange_of_not_mem own
    | cons next pieces =>
      rw [join_cons_cons, join_cons_cons, List.map_append, List.map_append,
        map_exchange_of_not_mem own, inductionHypothesis others, List.map_singleton, exchange,
        if_pos rfl]

end Exchange

end Text

/-- The text with the new character in place of the old one. -/
def exchanged (old new : Char) (text : String) : String :=
  String.ofList (text.toList.map (Text.exchange old new))

theorem exchanged_of_not_mem {old new : Char} {text : String} (absent : old ∉ text.toList) :
    exchanged old new text = text := by
  rw [← String.toList_inj, exchanged, String.toList_ofList, Text.map_exchange_of_not_mem absent]

namespace Attribution

/-- The attribution with another delimiter in the names of type and member. -/
def exchange (old new : Char) (attribution : Attribution) : Attribution :=
  { attribution with
    type := exchanged old new attribution.type
    member := exchanged old new attribution.member }

theorem exchange_bucket {old new : Char} {name : String} (absent : old ∉ name.toList)
    (identifier : String) :
    (bucket name identifier).exchange old new = bucket name (exchanged old new identifier) := by
  simp only [bucket, exchange, exchanged_of_not_mem absent]

end Attribution

namespace Rules

variable {rules : Rules} {delimiter : Char}

theorem segments_exchange {identifier : String} (absent : delimiter ∉ identifier.toList) :
    (rules.withDelimiter delimiter).segments (exchanged rules.delimiter delimiter identifier) =
      rules.segments identifier := by
  rw [segments, segments, exchanged, String.toList_ofList]
  exact congrArg (List.map String.ofList) (Text.split_map_exchange absent)

theorem joined_exchange {segments : List String}
    (absent : ∀ segment ∈ segments, rules.delimiter ∉ segment.toList) :
    (rules.withDelimiter delimiter).joined segments =
      exchanged rules.delimiter delimiter (rules.joined segments) := by
  rw [← String.toList_inj, exchanged, String.toList_ofList, joined, joined, toList_joinedBy,
    toList_joinedBy, Text.map_exchange_join (List.forall_mem_map.mpr absent)]
  rfl

section Reserved

variable (prefixes : ∀ entry ∈ rules.reserved,
  rules.delimiter ∉ entry.start.toList ∧ delimiter ∉ entry.start.toList)

include prefixes

theorem reservedPrefix?_exchange (identifier : String) :
    (rules.withDelimiter delimiter).reservedPrefix?
        (exchanged rules.delimiter delimiter identifier) =
      rules.reservedPrefix? identifier := by
  rw [reservedPrefix?, reservedPrefix?, ← List.head?_filter, ← List.head?_filter]
  apply congrArg List.head?
  apply List.filter_congr
  intro entry membership
  obtain ⟨noOld, noNew⟩ := prefixes entry membership
  rw [Bool.eq_iff_iff, List.isPrefixOf_iff_prefix, List.isPrefixOf_iff_prefix, exchanged,
    String.toList_ofList, Text.prefix_map_exchange_iff noOld noNew]

theorem reserved?_exchange (buckets : ∀ name ∈ rules.bucketNames, rules.delimiter ∉ name.toList)
    (identifier : String) :
    (rules.withDelimiter delimiter).reserved? (exchanged rules.delimiter delimiter identifier) =
      (rules.reserved? identifier).map (Attribution.exchange rules.delimiter delimiter) := by
  rw [reserved?, reserved?, reservedPrefix?_exchange prefixes, Option.map_map]
  apply Option.map_congr
  intro entry found
  have isBucket : entry.bucket ∈ rules.bucketNames :=
    List.mem_append_left _ (List.mem_map_of_mem (List.mem_of_find?_eq_some found))
  exact (Attribution.exchange_bucket (buckets entry.bucket isBucket) identifier).symm

end Reserved

theorem tooShort?_exchange (noOld : rules.delimiter ∉ globalBucket.toList) {identifier : String}
    (absent : delimiter ∉ identifier.toList) :
    (rules.withDelimiter delimiter).tooShort? (exchanged rules.delimiter delimiter identifier) =
      (rules.tooShort? identifier).map (Attribution.exchange rules.delimiter delimiter) := by
  rw [tooShort?, tooShort?, segments_exchange absent]
  split
  · rw [Option.map_some, Attribution.exchange_bucket noOld]
  · rfl

end Rules

namespace Demangler

section Splitting

variable {rules : Rules} {segments : List String} (delimiter : Char)
  (absent : ∀ segment ∈ segments, rules.delimiter ∉ segment.toList)

include absent

theorem splitByRoot_exchange :
    splitByRoot (rules.withDelimiter delimiter) segments =
      (splitByRoot rules segments).map (Attribution.exchange rules.delimiter delimiter) := by
  by_cases long : 3 ≤ segments.length
  · by_cases known : ∃ root ∈ segments.head?, root ∈ rules.roots
    · obtain ⟨parts, type, members, cut, own⟩ := splitByRoot_of_known known long
      obtain ⟨otherParts, otherType, otherMembers, otherCut, other⟩ :=
        @splitByRoot_of_known (rules.withDelimiter delimiter) segments known long
      obtain ⟨rfl, rfl, rfl⟩ := cut.unique otherCut
      have noDelimiter : ∀ segment ∈ type :: members, rules.delimiter ∉ segment.toList :=
        fun segment inside => absent segment (cut.whole ▸ List.mem_append_right _ inside)
      obtain ⟨inType, inMembers⟩ := List.forall_mem_cons.mp noDelimiter
      rw [own, other, Option.map_some, Attribution.exchange, exchanged_of_not_mem inType,
        Rules.joined_exchange inMembers]
    · have unknown : ¬ segments.head?.any rules.isKnownRoot = true :=
        known ∘ Rules.head_isKnownRoot_iff.mp
      rw [splitByRoot, splitByRoot, if_neg unknown]
      exact if_neg unknown
  · rw [splitByRoot_of_short _ (Nat.not_le.mp long), splitByRoot_of_short _ (Nat.not_le.mp long)]
    rfl

theorem splitByCase_exchange (identifier : String) :
    splitByCase (rules.withDelimiter delimiter) (exchanged rules.delimiter delimiter identifier)
        segments =
      (splitByCase rules identifier segments).exchange rules.delimiter delimiter := by
  obtain ⟨lowers, uppers, others, runs⟩ := exists_caseRuns segments
  by_cases none : uppers = []
  · have empty : exchanged rules.delimiter delimiter "" = "" := exchanged_of_not_mem (by simp)
    rw [splitByCase_of_no_upper _ _ runs none, splitByCase_of_no_upper _ _ runs none,
      Attribution.exchange, empty]
  · obtain ⟨types, members, cut⟩ := exists_typeCut none others
    have noDelimiter : ∀ segment ∈ types ++ members, rules.delimiter ∉ segment.toList := by
      intro segment inside
      apply absent
      rw [← runs.whole, ← cut.whole]
      exact List.mem_append_right _ inside
    obtain ⟨inTypes, inMembers⟩ := List.forall_mem_append.mp noDelimiter
    rw [splitByCase_of_runs _ _ runs cut, splitByCase_of_runs _ _ runs cut, Attribution.exchange,
      Rules.joined_exchange inTypes, Rules.joined_exchange inMembers]

end Splitting

theorem structured?_exchange {rules : Rules} {delimiter : Char} {identifier : String}
    (absent : delimiter ∉ identifier.toList) (demangler : Demangler) :
    demangler.structured? (rules.withDelimiter delimiter)
        (exchanged rules.delimiter delimiter identifier) =
      (demangler.structured? rules identifier).map
        (Attribution.exchange rules.delimiter delimiter) := by
  have noDelimiter : ∀ segment ∈ rules.segments identifier, rules.delimiter ∉ segment.toList :=
    fun segment => Rules.delimiter_not_mem
  cases demangler with
  | roots =>
    rw [structured?, structured?, Rules.segments_exchange absent]
    exact splitByRoot_exchange delimiter noDelimiter
  | casing =>
    rw [structured?, structured?, Rules.segments_exchange absent,
      splitByCase_exchange delimiter noDelimiter, Option.map_some]

/-- An identifier with another delimiter, under the rules with that delimiter, has the same
namespace, and its type and its member with the other delimiter. -/
theorem demangle_withDelimiter {rules : Rules} {delimiter : Char}
    (prefixes : ∀ entry ∈ rules.reserved,
      rules.delimiter ∉ entry.start.toList ∧ delimiter ∉ entry.start.toList)
    (buckets : ∀ name ∈ rules.bucketNames, rules.delimiter ∉ name.toList)
    {identifier : String} (absent : delimiter ∉ identifier.toList) (demangler : Demangler) :
    let attribution := demangler.demangle rules identifier
    demangler.demangle (rules.withDelimiter delimiter)
        (exchanged rules.delimiter delimiter identifier) =
      ⟨attribution.scope, exchanged rules.delimiter delimiter attribution.type,
        exchanged rules.delimiter delimiter attribution.member⟩ := by
  intro attribution
  have noGlobal : rules.delimiter ∉ Rules.globalBucket.toList :=
    buckets _ (by simp [Rules.bucketNames])
  have noUnknown : rules.delimiter ∉ Rules.unknownBucket.toList :=
    buckets _ (by simp [Rules.bucketNames])
  have unmatched : Rules.unmatched (exchanged rules.delimiter delimiter identifier) =
      (Rules.unmatched identifier).exchange rules.delimiter delimiter :=
    (Attribution.exchange_bucket noUnknown identifier).symm
  change _ = (demangler.demangle rules identifier).exchange rules.delimiter delimiter
  rw [demangle, demangle, Rules.reserved?_exchange prefixes buckets,
    Rules.tooShort?_exchange noGlobal absent, structured?_exchange absent, unmatched]
  cases rules.reserved? identifier with
  | some bucket => rfl
  | none =>
    cases rules.tooShort? identifier with
    | some bucket => rfl
    | none => cases demangler.structured? rules identifier <;> rfl

/-- Two reserved prefixes and a root, with a hyphen between segments. -/
def hyphenated : Rules :=
  ⟨[⟨"plt", Rules.runtimeBucket⟩, ⟨"temp", Rules.thunksBucket⟩], ["System"], '-'⟩

/-- Both demanglers on an identifier whose delimiters become dots, as between the parts of the
namespace. -/
theorem demangle_withDelimiter_dotted :
    (∀ entry ∈ hyphenated.reserved,
      hyphenated.delimiter ∉ entry.start.toList ∧ '.' ∉ entry.start.toList) ∧
    (∀ name ∈ hyphenated.bucketNames, hyphenated.delimiter ∉ name.toList) ∧
    '.' ∉ "System-Text-List-1".toList ∧
    exchanged '-' '.' "System-Text-List-1" = "System.Text.List.1" ∧
    Demangler.roots.demangle (hyphenated.withDelimiter '.') "System.Text.List.1" =
      ⟨"System", "Text", "List.1"⟩ ∧
    Demangler.casing.demangle (hyphenated.withDelimiter '.') "System.Text.List.1" =
      ⟨"", "System.Text.List", "1"⟩ := by
  have prefixes : ∀ entry ∈ hyphenated.reserved,
      hyphenated.delimiter ∉ entry.start.toList ∧ '.' ∉ entry.start.toList := by decide
  have buckets : ∀ name ∈ hyphenated.bucketNames, hyphenated.delimiter ∉ name.toList := by decide
  have absent : '.' ∉ "System-Text-List-1".toList := by decide
  have identifier : exchanged '-' '.' "System-Text-List-1" = "System.Text.List.1" := by decide
  have byRoot := demangle_withDelimiter prefixes buckets absent .roots
  have byCase := demangle_withDelimiter prefixes buckets absent .casing
  have taken : Demangler.roots.demangle hyphenated "System-Text-List-1" =
      ⟨"System", "Text", "List-1"⟩ := by decide
  have takenByCase : Demangler.casing.demangle hyphenated "System-Text-List-1" =
      ⟨"", "System-Text-List", "1"⟩ := by decide
  rw [taken] at byRoot
  rw [takenByCase] at byCase
  exact ⟨prefixes, buckets, absent, identifier, byRoot, byCase⟩

end Demangler

end SymbolFootprint
