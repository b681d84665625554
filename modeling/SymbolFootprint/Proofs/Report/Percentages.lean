import Mathlib.Data.List.Forall2
import SymbolFootprint.Proofs.Decimal.Rounding
import SymbolFootprint.Proofs.Report.Balance
import SymbolFootprint.Proofs.Report.Tables

/-!
The percentages that a page shows.

A percentage is computed in floating-point numbers, and each step rounds to the nearest one; sizes
have 64 bits, so no step leaves the range of these numbers (`Amount.IsPercentage`). Rounding keeps
the order, and 0, 1 and 100 are such numbers, so the part of a total is between 0 and 100 percent
however the steps round (`IsPercentage.bounds`). No row of a table is larger than the total of its
table, so the tables of a page show such parts (`Page.percentages_between`).
-/

namespace SymbolFootprint

namespace Amount

/-- The part of a total in percent: both sizes, their quotient and a hundred times that are rounded
to floating-point numbers. Nothing is no part of an empty total. -/
inductive IsPercentage (part total : Size) : ℚ → Prop
  | ofNothing : total = 0 → IsPercentage part total 0
  | ofParts {dividend divisor quotient percent : ℚ} :
      IsDouble part.bytes dividend → IsDouble total.bytes divisor → 0 < divisor →
      IsDouble (dividend / divisor) quotient → IsDouble (quotient * 100) percent →
      IsPercentage part total percent

theorem isBinary64_binary64 (size : Size) : IsBinary64 size.bytes (binary64 size).value := by
  have rounded := Fraction.isBinary64_toBinary64 (.ofNat size.bytes) Nat.one_pos
  rwa [Fraction.value_ofNat] at rounded

theorem one_le_binary64 {size : Size} (nonzero : size ≠ 0) : 1 ≤ (binary64 size).value := by
  have pos : 1 ≤ size.bytes := Nat.pos_of_ne_zero fun none => nonzero (Size.ext none)
  exact IsBinary64.one.le (isBinary64_binary64 size) (by exact_mod_cast pos)

theorem within_binary64 (size : Size) : Within 64 (binary64 size).value :=
  (Within.natCast size.bounded.le).rounded (isBinary64_binary64 size)

theorem numerator_pos {fraction : Fraction} (pos : 0 < fraction.value) :
    0 < fraction.numerator := by
  apply Nat.pos_of_ne_zero
  intro none
  simp [Fraction.value, none] at pos

theorem denominator_percentage_pos (part total : Size) :
    0 < (percentage part total).denominator := by
  unfold percentage
  split
  · exact Nat.one_pos
  · exact Fraction.denominator_toBinary64_pos _

theorem isPercentage_percentage (part total : Size) :
    IsPercentage part total (percentage part total).value := by
  unfold percentage
  split
  · next nothing =>
    rw [Fraction.value_ofNat, Nat.cast_zero]
    exact .ofNothing nothing
  · next nonzero =>
    have divisorPos : 0 < (binary64 total).value := one_pos.trans_le (one_le_binary64 nonzero)
    have quotientPos : 0 < ((binary64 part).div (binary64 total)).denominator :=
      Nat.mul_pos (Fraction.denominator_toBinary64_pos _) (numerator_pos divisorPos)
    have quotient := Fraction.isBinary64_toBinary64 _ quotientPos
    have percent := Fraction.isBinary64_toBinary64
      (((binary64 part).div (binary64 total)).toBinary64.times 100)
      (Fraction.denominator_toBinary64_pos _)
    rw [Fraction.value_div] at quotient
    rw [Fraction.value_times] at percent
    have quotientRange := ((within_binary64 part).div (within_binary64 total)).rounded quotient
    have hundred : Within 7 (100 : ℕ) := .natCast (by norm_num)
    have percentRange := (quotientRange.mul hundred).rounded percent
    refine .ofParts ⟨isBinary64_binary64 part, ?_⟩ ⟨isBinary64_binary64 total, ?_⟩ divisorPos
      ⟨quotient, ?_⟩ ⟨by exact_mod_cast percent, ?_⟩
    · exact (within_binary64 part).mono (by norm_num)
    · exact (within_binary64 total).mono (by norm_num)
    · exact quotientRange.mono (by norm_num)
    · exact percentRange.mono (by norm_num)

theorem IsPercentage.bounds {part total : Size} {percent : ℚ}
    (isPercentage : IsPercentage part total percent) (atMost : part ≤ total) :
    0 ≤ percent ∧ percent ≤ 100 := by
  cases isPercentage with
  | ofNothing nothing => norm_num
  | @ofParts dividend divisor quotient _ isDividend isDivisor divisorPos isQuotient isPercent =>
    have parts : dividend ≤ divisor :=
      isDividend.rounded.le isDivisor.rounded (by exact_mod_cast atMost)
    have hundred : IsBinary64 100 100 := by exact_mod_cast IsBinary64.natCast 100 (by norm_num)
    have quotientAtMost : quotient ≤ 1 :=
      isQuotient.rounded.le .one ((div_le_one divisorPos).mpr parts)
    constructor
    · exact isPercent.rounded.nonneg
    · exact isPercent.rounded.le hundred (by linarith)

end Amount

namespace Decimal

/-- A number of tenths, with the point before its last digit. -/
def tenthsText (tenths : ℕ) : List Char :=
  digits (tenths / 10) ++ '.' :: digits (tenths % 10)

theorem fixed_one (fraction : Fraction) : fixed 1 fraction =
    tenthsText (roundQuotient (fraction.numerator * 10) fraction.denominator) := by
  have filled : ∀ n, zeroFilled 1 (digits n) = digits n := by
    intro n
    have pos : 1 ≤ (digits n).length := Nat.length_toDigits_pos
    rw [zeroFilled, Nat.sub_eq_zero_of_le pos, List.replicate_zero, List.nil_append]
  simp only [fixed, Nat.pow_eq, pow_one, filled, tenthsText]

end Decimal

namespace Page

/-- The line ends in the part that a row has of the total: a percentage between 0 and 100, rounded
to one place after the point. -/
def ShowsPart (total : Size) (row : SizeRow) (line : Line) : Prop :=
  ∃ front percent tenths,
    line = front ++ ' ' :: Text.padLeft 5 (Decimal.tenthsText tenths) ++ ['%'] ∧
    Amount.IsPercentage row.2 total percent ∧ IsRounded (percent * 10) tenths ∧
    0 ≤ percent ∧ percent ≤ 100 ∧ tenths ≤ 1000

theorem showsPart_partRow {total : Size} {row : SizeRow} (atMost : row.2 ≤ total) (width : ℕ)
    (label : String) : ShowsPart total row (partRow width total label row.2) := by
  have isPercentage := Amount.isPercentage_percentage row.2 total
  have tenths := Fraction.isRounded_roundQuotient ((Amount.percentage row.2 total).times 10)
    (Amount.denominator_percentage_pos row.2 total)
  rw [Fraction.value_times] at tenths
  obtain ⟨low, high⟩ := isPercentage.bounds atMost
  refine ⟨"  ".toList ++ sizeText width label.toList row.2, _, _, ?_, isPercentage,
    by exact_mod_cast tenths, low, high, ?_⟩
  · rw [partRow, Amount.percentageText, Decimal.fixed_one]
    simp [Fraction.times]
  · apply tenths.le (IsRounded.natCast 1000)
    push_cast
    linarith

theorem forall₂_showsPart {total : Size} {rows : List SizeRow} {width : ℕ}
    {label : SizeRow → String} (atMost : ∀ row ∈ rows, row.2 ≤ total) :
    List.Forall₂ (ShowsPart total) rows
      (rows.map fun row => partRow width total (label row) row.2) := by
  rw [List.forall₂_map_right_iff, List.forall₂_same]
  exact fun row membership => showsPart_partRow (atMost row membership) width (label row)

/-- On a page, each row under the titles for namespaces, types and assemblies shows its part of the
total, and no part is below 0.0 or above 100.0 percent. -/
theorem percentages_between (page : Page) {corpus : CorpusReport}
    (aggregates : ∀ report ∈ corpus.files, report.IsAggregate) :
    ∃ lines : List Line,
      page.render corpus = String.ofList (lines.flatMap (· ++ ['\n'])) ∧
      List.Forall₂ (ShowsPart corpus.totalSymbolBytes) (corpus.topNamespaces page.topNamespaces)
        (under "TOP NAMESPACES BY SIZE (across all files):" lines) ∧
      List.Forall₂ (ShowsPart corpus.totalSymbolBytes) (corpus.topTypes page.topTypes)
        (under "TOP TYPES BY SIZE (across all files):" lines) ∧
      List.Forall₂ (ShowsPart corpus.totalFileBytes) corpus.assemblySizes
        (under "ASSEMBLY SIZES (sorted by size):" lines) := by
  refine ⟨page.lines corpus, rfl, ?_⟩
  rw [under_namespaces, under_types, under_assemblies]
  refine ⟨forall₂_showsPart ?_, forall₂_showsPart ?_, forall₂_showsPart ?_⟩
  · intro row membership
    exact CorpusReport.namespace_le_totalSymbolBytes aggregates (List.mem_of_mem_take membership)
  · intro row membership
    exact CorpusReport.type_le_totalSymbolBytes (List.mem_of_mem_take membership)
  · intro row membership
    exact CorpusReport.assembly_le_totalFileBytes membership

/-- A namespace whose symbols fill the largest count, which is also the total. -/
theorem percentages_between_full :
    let large : SymbolRecord := ⟨"system_List_Add", .clamp (2 ^ 64 - 3), .function⟩
    let small : SymbolRecord := ⟨"system_List_Clear", .clamp 7, .function⟩
    let target : Backend.Target := ⟨⟨"libaot-Demo.dll.so"⟩, ⟨#[0, 0, 0]⟩, .none⟩
    let report :=
      FileReport.ofSelection .casing .standard target ⟨[], some ⟨"nm", [large, small]⟩⟩
    let corpus : CorpusReport := .ofFiles [report]
    (∀ report ∈ corpus.files, report.IsAggregate) ∧
    corpus.totalSymbolBytes = .clamp (2 ^ 64 - 1) ∧
    ∃ (lines : List Line) (line : Line),
      render {} corpus = String.ofList (lines.flatMap (· ++ ['\n'])) ∧
      under "TOP NAMESPACES BY SIZE (across all files):" lines = [line] ∧
      ShowsPart (.clamp (2 ^ 64 - 1)) ("system", .clamp (2 ^ 64 - 1)) line := by
  intro large small target report corpus
  have aggregates : ∀ report ∈ corpus.files, report.IsAggregate := by
    intro file membership
    rw [List.mem_singleton.mp membership]
    exact FileReport.isAggregate_ofSelection ..
  have total : corpus.totalSymbolBytes = .clamp (2 ^ 64 - 1) := by decide
  have rows : corpus.namespaces.rows = [("system", .clamp (2 ^ 64 - 1))] := by decide
  have top : corpus.topNamespaces 20 = [("system", .clamp (2 ^ 64 - 1))] := by
    simp [CorpusReport.topNamespaces, SizeTable.ranked, rows]
  obtain ⟨lines, rendered, namespaces, _⟩ := percentages_between {} aggregates
  rw [top, total, List.forall₂_cons_left_iff] at namespaces
  obtain ⟨line, rest, shows, none, listed⟩ := namespaces
  rw [List.forall₂_nil_left_iff.mp none] at listed
  exact ⟨aggregates, total, lines, line, rendered, listed, shows⟩

end Page

end SymbolFootprint
