import SymbolFootprint.Proofs.Decimal.Digits
import SymbolFootprint.Proofs.Report.Percentages

/-!
Sizes in kilobytes.

A size is rounded to a floating-point number; dividing that by 1024 and taking a hundred times the
quotient is exact, so the hundredths that are shown are those of `25 / 256` of the rounded size
(`Amount.kilobytesText_rounded`). A text shows one number of hundredths (`ShowsHundredths.unique`),
and rounding keeps the order of sizes, so larger sizes never show fewer hundredths.
-/

namespace SymbolFootprint

/-- The text writes a number of hundredths: a whole part without a superfluous zero in front, a
point, and two digits. -/
inductive ShowsHundredths : List Char → ℕ → Prop
  | intro {whole n c tens d ones} : Numeral 10 whole n →
      (whole.head? = some '0' → whole = ['0']) → IsDigit 10 c tens → IsDigit 10 d ones →
      ShowsHundredths (whole ++ ['.', c, d]) (100 * n + (10 * tens + ones))

theorem ShowsHundredths.unique {text : List Char} {first second : ℕ}
    (shows : ShowsHundredths text first) (other : ShowsHundredths text second) :
    first = second := by
  cases shows with
  | @intro whole n c tens d ones numeral _ isTens isOnes =>
    generalize same : whole ++ ['.', c, d] = text at other
    cases other with
    | intro otherNumeral _ otherTens otherOnes =>
      obtain ⟨rfl, fraction⟩ := List.append_inj' same rfl
      simp only [List.cons.injEq, and_true, true_and] at fraction
      obtain ⟨rfl, rfl⟩ := fraction
      rw [numeral.unique otherNumeral (by decide), isTens.unique otherTens (by decide),
        isOnes.unique otherOnes (by decide)]

namespace Decimal

theorem zeroFilled_two {n : ℕ} (small : n < 100) :
    zeroFilled 2 (digits n) = [(n / 10).digitChar, (n % 10).digitChar] := by
  rcases Nat.lt_or_ge n 10 with single | double
  · rw [digits_of_lt single, Nat.div_eq_of_lt single, Nat.mod_eq_of_lt single]
    rfl
  · rw [digits_of_le double, digits_of_lt (by omega)]
    rfl

theorem showsHundredths_fixed (fraction : Fraction) :
    ShowsHundredths (fixed 2 fraction)
      (roundQuotient (fraction.numerator * 100) fraction.denominator) := by
  simp only [fixed, Nat.pow_eq, Nat.reducePow]
  generalize roundQuotient (fraction.numerator * 100) fraction.denominator = units
  have parts : 100 * (units / 100) + (10 * (units % 100 / 10) + units % 100 % 10) = units := by
    omega
  have noZero : (digits (units / 100)).head? = some '0' → digits (units / 100) = ['0'] := by
    intro zero
    rw [digits_of_zero_head zero]
    rfl
  have shows := ShowsHundredths.intro (numeral_digits (units / 100)) noZero
    (.of_lt (units % 100 / 10) (by omega)) (.of_lt (units % 100 % 10) (by omega))
  rwa [parts, ← zeroFilled_two (Nat.mod_lt units (by decide))] at shows

end Decimal

namespace Amount

def ShowsKilobytes (shown : List Char) (hundredths : ℕ) : Prop :=
  ∃ text, shown = text ++ " KB".toList ∧ ShowsHundredths text hundredths

theorem ShowsKilobytes.unique {shown : List Char} {first second : ℕ}
    (shows : ShowsKilobytes shown first) (other : ShowsKilobytes shown second) :
    first = second := by
  obtain ⟨text, rfl, hundredths⟩ := shows
  obtain ⟨otherText, same, otherHundredths⟩ := other
  rw [List.append_cancel_right same] at hundredths
  exact hundredths.unique otherHundredths

theorem isDouble_binary64 (size : Size) : IsDouble size.bytes (binary64 size).value where
  rounded := isBinary64_binary64 size
  inRange := (within_binary64 size).mono (by norm_num)

theorem isDouble_kilobytes (size : Size) :
    IsDouble ((binary64 size).value / 1024) ((binary64 size).value / 1024) where
  rounded := by
    have quotient : (binary64 size).value / 1024 = (binary64 size).value * 2 ^ (-10 : ℤ) := by
      norm_num [div_eq_mul_inv]
    rw [quotient]
    exact (isBinary64_binary64 size).mul_two_zpow (-10)
  inRange := by
    have thousand : Within 10 (1024 : ℕ) := .natCast (by norm_num)
    have quotient := (within_binary64 size).div thousand
    exact_mod_cast quotient.mono (by norm_num)

/-- The hundredths that a size shows, where its kilobytes are those of the rounded size. -/
theorem exists_hundredths (size : Size) : ∃ hundredths : ℕ,
    IsRounded (25 * (binary64 size).value / 256) hundredths ∧
      ShowsKilobytes (kilobytesText size) hundredths := by
  have pos : 0 < ((kilobytes size).times 100).denominator :=
    Nat.mul_pos (Fraction.denominator_toBinary64_pos _) (by decide)
  have hundred : ((kilobytes size).times 100).value = 25 * (binary64 size).value / 256 := by
    rw [Fraction.value_times, kilobytes, Fraction.value_div, Fraction.value_ofNat]
    push_cast
    ring
  have rounded := Fraction.isRounded_roundQuotient _ pos
  rw [hundred] at rounded
  exact ⟨_, rounded, _, rfl, Decimal.showsHundredths_fixed (kilobytes size)⟩

theorem kilobytesText_rounded :
    (∀ size : Size, ∃ (nearest : ℚ) (hundredths : ℕ),
      IsDouble size.bytes nearest ∧ (size.bytes ≤ 2 ^ 53 → nearest = size.bytes) ∧
      IsDouble (nearest / 1024) (nearest / 1024) ∧
      IsRounded (25 * nearest / 256) hundredths ∧
      ShowsKilobytes (kilobytesText size) hundredths) ∧
    ∀ (smaller larger : Size) (few many : ℕ), smaller ≤ larger →
      ShowsKilobytes (kilobytesText smaller) few → ShowsKilobytes (kilobytesText larger) many →
      few ≤ many := by
  constructor
  · intro size
    obtain ⟨hundredths, rounded, shows⟩ := exists_hundredths size
    exact ⟨_, hundredths, isDouble_binary64 size, (isBinary64_binary64 size).eq_of_natCast_le,
      isDouble_kilobytes size, rounded, shows⟩
  · intro smaller larger few many before showsFew showsMany
    obtain ⟨hundredths, rounded, shows⟩ := exists_hundredths smaller
    obtain ⟨otherHundredths, otherRounded, otherShows⟩ := exists_hundredths larger
    rw [showsFew.unique shows, showsMany.unique otherShows]
    have nearest : (binary64 smaller).value ≤ (binary64 larger).value :=
      (isBinary64_binary64 smaller).le (isBinary64_binary64 larger) (by exact_mod_cast before)
    exact rounded.le otherRounded (by linarith)

/-- Halves go to the even neighbour: 12.5 hundredths down and 37.5 hundredths up. -/
theorem kilobytesText_rounded_halves :
    let small : Size := .clamp 128
    let large : Size := .clamp 384
    small.bytes ≤ 2 ^ 53 ∧ large.bytes ≤ 2 ^ 53 ∧ small ≤ large ∧
    ShowsKilobytes (kilobytesText small) 12 ∧ ShowsKilobytes (kilobytesText large) 38 ∧
    kilobytesText small = "0.12 KB".toList ∧ kilobytesText large = "0.38 KB".toList ∧ 12 ≤ 38 := by
  intro small large
  obtain ⟨shown, ordered⟩ := kilobytesText_rounded
  obtain ⟨nearest, hundredths, _, exactly, _, rounded, shows⟩ := shown small
  obtain ⟨nearestLarge, hundredthsLarge, _, exactlyLarge, _, roundedLarge, showsLarge⟩ :=
    shown large
  have halfAbove : |(25 * 128 / 256 : ℚ) - (12 : ℕ)| = 1 / 2 := by
    rw [abs_of_nonneg (by norm_num)]
    norm_num
  have halfBelow : |(25 * 384 / 256 : ℚ) - (38 : ℕ)| = 1 / 2 := by
    rw [abs_of_neg (by norm_num)]
    norm_num
  have down : IsRounded (25 * 128 / 256) 12 := ⟨halfAbove.le, fun _ => by decide⟩
  have up : IsRounded (25 * 384 / 256) 38 := ⟨halfBelow.le, fun _ => by decide⟩
  rw [exactly (by decide)] at rounded
  rw [exactlyLarge (by decide)] at roundedLarge
  have twelve : hundredths = 12 := rounded.unique (by exact_mod_cast down)
  have thirtyEight : hundredthsLarge = 38 := roundedLarge.unique (by exact_mod_cast up)
  rw [twelve] at shows
  rw [thirtyEight] at showsLarge
  exact ⟨by decide, by decide, by decide, shows, showsLarge, by decide, by decide,
    ordered small large 12 38 (by decide) shows showsLarge⟩

end Amount

end SymbolFootprint
