import Mathlib.Algebra.Order.Field.Power
import Mathlib.Algebra.Order.Field.Rat
import Mathlib.Algebra.Ring.Parity
import Mathlib.Data.Rat.Cast.Defs
import Mathlib.Tactic.FieldSimp
import Mathlib.Tactic.Linarith
import Mathlib.Tactic.NormNum
import Mathlib.Tactic.Positivity
import Mathlib.Tactic.Ring
import SymbolFootprint.Decimal.Rounding

/-!
What rounding does to the value of a fraction.

Rounding to a whole number gives the nearest one, and the even one of two (`IsRounded`). Rounding to
53 significant bits brings a value to a place between `2 ^ 52` and `2 ^ 53`, rounds it there, and
brings it back (`IsBinary64`). Neither changes the order of values (`IsRounded.le`,
`IsBinary64.le`), and values that fit stay as they are. Products and quotients of values that are
not far from one are not far from one (`Within`), where there is a floating-point number for every
53 significant bits (`IsDouble`).
-/

namespace SymbolFootprint

/-- The whole number is nearest to the value, and the even one of two that are. -/
structure IsRounded (value : ℚ) (whole : ℕ) : Prop where
  near : |value - whole| ≤ 1 / 2
  even : |value - whole| = 1 / 2 → Even whole

namespace IsRounded

theorem natCast (whole : ℕ) : IsRounded whole whole := by
  constructor <;> simp

variable {first second : ℚ} {whole other : ℕ}

theorem le (rounded : IsRounded first whole) (otherRounded : IsRounded second other)
    (before : first ≤ second) : whole ≤ other := by
  by_contra after
  have next : (other : ℚ) + 1 ≤ whole := by exact_mod_cast Nat.lt_of_not_le after
  have low := (abs_le.mp rounded.near).1
  have high := (abs_le.mp otherRounded.near).2
  have firstMiddle : first - whole = -(1 / 2) := by linarith
  have secondMiddle : second - other = 1 / 2 := by linarith
  have neighbours : whole = other + 1 := by
    have same : (whole : ℚ) = other + 1 := by linarith
    exact_mod_cast same
  have even := rounded.even (by rw [firstMiddle]; norm_num)
  have otherEven := otherRounded.even (by rw [secondMiddle]; norm_num)
  rw [neighbours, Nat.even_add_one] at even
  exact even otherEven

theorem of_small_rest {rest : ℚ} (parts : first - whole = rest) (nonneg : 0 ≤ rest)
    (small : rest < 1 / 2 ∨ rest = 1 / 2 ∧ Even whole) : IsRounded first whole := by
  constructor
  · rw [parts, abs_of_nonneg nonneg]
    rcases small with smaller | ⟨equal, _⟩
    · exact smaller.le
    · exact equal.le
  · rw [parts, abs_of_nonneg nonneg]
    intro equal
    rcases small with smaller | ⟨_, even⟩
    · exact absurd equal smaller.ne
    · exact even

theorem of_large_rest {rest : ℚ} (parts : first - whole = rest) (lessThanOne : rest < 1)
    (large : 1 / 2 ≤ rest) (odd : rest = 1 / 2 → ¬ Even whole) :
    IsRounded first (whole + 1) := by
  have missing : |first - (whole + 1 : ℕ)| = 1 - rest := by
    rw [abs_of_nonpos] <;> push_cast <;> linarith
  constructor
  · rw [missing]
    linarith
  · rw [missing, Nat.even_add_one]
    exact fun equal => odd (by linarith)

theorem unique (rounded : IsRounded first whole) (otherRounded : IsRounded first other) :
    whole = other :=
  Nat.le_antisymm (rounded.le otherRounded le_rfl) (otherRounded.le rounded le_rfl)

end IsRounded

/-- The value with 53 significant bits that is nearest to a value, the one with an even last bit of
two that are. -/
inductive IsBinary64 : ℚ → ℚ → Prop
  | zero : IsBinary64 0 0
  | scaled {value : ℚ} {exponent : ℤ} {significand : ℕ} :
      2 ^ 52 ≤ value * 2 ^ exponent → value * 2 ^ exponent < 2 ^ 53 →
      IsRounded (value * 2 ^ exponent) significand →
      IsBinary64 value (significand * 2 ^ (-exponent))

namespace IsBinary64

theorem two_zpow_pos (exponent : ℤ) : (0 : ℚ) < 2 ^ exponent :=
  zpow_pos two_pos exponent

theorem two_mul_zpow_le {exponent other : ℤ} (before : exponent < other) :
    (2 : ℚ) * 2 ^ exponent ≤ 2 ^ other := by
  rw [← zpow_one_add₀ two_ne_zero]
  exact zpow_le_zpow_right₀ one_le_two (by omega)

theorem nonneg {value nearest : ℚ} (isNearest : IsBinary64 value nearest) : 0 ≤ nearest := by
  cases isNearest with
  | zero => exact le_rfl
  | scaled => positivity

theorem two_pow_le_significand {value : ℚ} {significand : ℕ} (low : 2 ^ 52 ≤ value)
    (rounded : IsRounded value significand) : (2 ^ 52 : ℚ) ≤ significand := by
  have least : 2 ^ 52 ≤ significand :=
    (IsRounded.natCast (2 ^ 52)).le rounded (by push_cast; exact low)
  exact_mod_cast least

theorem significand_le_two_pow {value : ℚ} {significand : ℕ} (high : value < 2 ^ 53)
    (rounded : IsRounded value significand) : (significand : ℚ) ≤ 2 ^ 53 := by
  have most : significand ≤ 2 ^ 53 :=
    rounded.le (IsRounded.natCast (2 ^ 53)) (by push_cast; exact high.le)
  exact_mod_cast most

/-- A smaller value needs no smaller power of two to reach the place where it is rounded. -/
theorem exponent_le {first second : ℚ} {exponent other : ℤ} (low : 2 ^ 52 ≤ first * 2 ^ exponent)
    (high : second * 2 ^ other < 2 ^ 53) (before : first ≤ second) : other ≤ exponent := by
  by_contra after
  have pos : 0 < first := by
    by_contra negative
    have product := mul_nonpos_of_nonpos_of_nonneg (not_lt.mp negative) (two_zpow_pos exponent).le
    linarith
  have doubled : first * (2 * 2 ^ exponent) ≤ second * 2 ^ other :=
    mul_le_mul before (two_mul_zpow_le (not_le.mp after)) (by positivity) (pos.le.trans before)
  linarith

theorem le {first second nearest other : ℚ} (isNearest : IsBinary64 first nearest)
    (isOther : IsBinary64 second other) (before : first ≤ second) : nearest ≤ other := by
  cases isNearest with
  | zero => exact isOther.nonneg
  | @scaled _ exponent significand low high rounded =>
    cases isOther with
    | zero =>
      have product := mul_nonpos_of_nonpos_of_nonneg before (two_zpow_pos exponent).le
      linarith
    | @scaled _ otherExponent otherSignificand otherLow otherHigh otherRounded =>
      rcases (exponent_le low otherHigh before).eq_or_lt with same | larger
      · subst same
        have scaled := mul_le_mul_of_nonneg_right before (two_zpow_pos otherExponent).le
        have significands : (significand : ℚ) ≤ otherSignificand := by
          exact_mod_cast rounded.le otherRounded scaled
        exact mul_le_mul_of_nonneg_right significands (two_zpow_pos _).le
      · calc (significand : ℚ) * 2 ^ (-exponent)
            ≤ 2 ^ 53 * 2 ^ (-exponent) := by
              apply mul_le_mul_of_nonneg_right _ (two_zpow_pos _).le
              exact significand_le_two_pow high rounded
          _ = 2 ^ 52 * (2 * 2 ^ (-exponent)) := by ring
          _ ≤ 2 ^ 52 * 2 ^ (-otherExponent) := by
              apply mul_le_mul_of_nonneg_left _ (by positivity)
              exact two_mul_zpow_le (by omega)
          _ ≤ otherSignificand * 2 ^ (-otherExponent) := by
              apply mul_le_mul_of_nonneg_right _ (two_zpow_pos _).le
              exact two_pow_le_significand otherLow otherRounded

/-- A whole number below `2 ^ 53` has no more than 53 bits. -/
theorem eq_of_natCast {whole : ℕ} {value nearest : ℚ} (isNearest : IsBinary64 value nearest)
    (isWhole : value = whole) (small : whole < 2 ^ 53) : nearest = whole := by
  cases isNearest with
  | zero => exact isWhole
  | @scaled _ exponent significand low high rounded =>
    have smallCast : (whole : ℚ) < 2 ^ 53 := by exact_mod_cast small
    rw [isWhole] at low rounded
    obtain ⟨shift, rfl⟩ : ∃ shift : ℕ, exponent = shift := by
      apply Int.eq_ofNat_of_zero_le
      by_contra negative
      have halved : (2 : ℚ) * 2 ^ exponent ≤ 1 := two_mul_zpow_le (not_le.mp negative)
      have power := two_zpow_pos exponent
      have scaled := mul_lt_mul_of_pos_right smallCast power
      linarith
    have exactly : ((whole * 2 ^ shift : ℕ) : ℚ) = whole * 2 ^ (shift : ℤ) := by
      push_cast
      rw [zpow_natCast]
    rw [← exactly] at rounded
    rw [rounded.unique (IsRounded.natCast _), exactly, mul_assoc, ← zpow_add₀ two_ne_zero,
      add_neg_cancel, zpow_zero, mul_one]

end IsBinary64

namespace Fraction

def value (fraction : Fraction) : ℚ :=
  fraction.numerator / fraction.denominator

@[simp]
theorem value_ofNat (n : ℕ) : (ofNat n).value = n := by
  simp [ofNat, value]

theorem value_div (first second : Fraction) :
    (first.div second).value = first.value / second.value := by
  simp only [div, value, Nat.cast_mul]
  rw [div_div_div_eq]

theorem value_times (fraction : Fraction) (n : ℕ) :
    (fraction.times n).value = fraction.value * n := by
  simp only [times, value, Nat.cast_mul]
  ring

theorem value_scaled (fraction : Fraction) (exponent : ℤ) :
    (fraction.scaled exponent).value = fraction.value * 2 ^ exponent := by
  cases exponent with
  | ofNat exponent => simp [scaled, value]; ring
  | negSucc exponent => simp [scaled, value, zpow_negSucc]; field_simp

theorem value_sub_quotient {fraction : Fraction} (pos : 0 < fraction.denominator) :
    fraction.value - (fraction.numerator / fraction.denominator : ℕ) =
      (fraction.numerator % fraction.denominator : ℕ) / fraction.denominator := by
  have whole : (fraction.denominator : ℚ) ≠ 0 := by positivity
  have parts : (fraction.numerator : ℚ) = fraction.denominator *
      (fraction.numerator / fraction.denominator : ℕ) +
        (fraction.numerator % fraction.denominator : ℕ) := by
    exact_mod_cast (Nat.div_add_mod fraction.numerator fraction.denominator).symm
  rw [value, eq_div_iff whole, sub_mul, div_mul_cancel₀ _ whole]
  linarith

theorem isRounded_roundQuotient (fraction : Fraction) (pos : 0 < fraction.denominator) :
    IsRounded fraction.value (roundQuotient fraction.numerator fraction.denominator) := by
  have parts := value_sub_quotient pos
  have small := Nat.mod_lt fraction.numerator pos
  have posCast : (0 : ℚ) < fraction.denominator := by exact_mod_cast pos
  unfold roundQuotient
  dsimp only
  generalize fraction.numerator / fraction.denominator = quotient at parts ⊢
  generalize fraction.numerator % fraction.denominator = remainder at parts small ⊢
  have below : (remainder / fraction.denominator : ℚ) < 1 / 2 ↔
      2 * remainder < fraction.denominator := by
    rw [div_lt_div_iff₀ posCast two_pos]
    norm_cast
    omega
  have middle : (remainder / fraction.denominator : ℚ) = 1 / 2 ↔
      2 * remainder = fraction.denominator := by
    rw [div_eq_div_iff posCast.ne' two_ne_zero]
    norm_cast
    omega
  split
  · next down =>
    apply IsRounded.of_small_rest parts (by positivity)
    rwa [below, middle, Nat.even_iff]
  · next up =>
    apply IsRounded.of_large_rest parts
    · rw [div_lt_one posCast]
      exact_mod_cast small
    · rw [← not_lt, below]
      exact fun smaller => up (.inl smaller)
    · rw [middle, Nat.even_iff]
      exact fun equal even => up (.inr ⟨equal, even⟩)

theorem quotient_lt_iff {fraction : Fraction} (pos : 0 < fraction.denominator) (bound : ℕ) :
    fraction.numerator / fraction.denominator < bound ↔ fraction.value < bound := by
  have posCast : (0 : ℚ) < fraction.denominator := by exact_mod_cast pos
  rw [Nat.div_lt_iff_lt_mul pos, value, div_lt_iff₀ posCast]
  norm_cast

theorem denominator_scaled_pos {fraction : Fraction} (pos : 0 < fraction.denominator)
    (exponent : ℤ) : 0 < (fraction.scaled exponent).denominator := by
  cases exponent with
  | ofNat => exact pos
  | negSucc => exact Nat.mul_pos pos (Nat.two_pow_pos _)

section Significand

variable {fraction : Fraction} (nonzero : fraction.numerator ≠ 0)
  (pos : 0 < fraction.denominator)

include nonzero pos

theorem leadingExponent_bounds :
    2 ^ 51 < fraction.value * 2 ^ fraction.leadingExponent ∧
      fraction.value * 2 ^ fraction.leadingExponent < 2 ^ 53 := by
  have least : (2 : ℚ) ^ fraction.numerator.log2 ≤ fraction.numerator := by
    exact_mod_cast Nat.log2_self_le nonzero
  have most : (fraction.numerator : ℚ) < 2 ^ (fraction.numerator.log2 + 1) := by
    exact_mod_cast Nat.lt_log2_self
  have leastBelow : (2 : ℚ) ^ fraction.denominator.log2 ≤ fraction.denominator := by
    exact_mod_cast Nat.log2_self_le pos.ne'
  have mostBelow : (fraction.denominator : ℚ) < 2 ^ (fraction.denominator.log2 + 1) := by
    exact_mod_cast Nat.lt_log2_self
  have powers : (2 : ℚ) ^ fraction.leadingExponent * 2 ^ fraction.numerator.log2 =
      2 ^ 52 * 2 ^ fraction.denominator.log2 := by
    rw [leadingExponent, zpow_sub₀ two_ne_zero, zpow_add₀ two_ne_zero]
    simp only [zpow_natCast]
    field_simp
  have posCast : (0 : ℚ) < fraction.denominator := by exact_mod_cast pos
  have powerPos := IsBinary64.two_zpow_pos fraction.leadingExponent
  have scaledLeast := mul_le_mul_of_nonneg_left least powerPos.le
  have scaledMost := mul_lt_mul_of_pos_left most powerPos
  rw [pow_succ] at mostBelow scaledMost
  rw [value, div_mul_eq_mul_div, lt_div_iff₀ posCast, div_lt_iff₀ posCast]
  constructor <;> linarith

/-- A positive fraction is brought to the place where numbers have 53 bits. -/
theorem significantExponent_bounds :
    2 ^ 52 ≤ fraction.value * 2 ^ fraction.significantExponent ∧
      fraction.value * 2 ^ fraction.significantExponent < 2 ^ 53 := by
  obtain ⟨low, high⟩ := leadingExponent_bounds nonzero pos
  have quotient := quotient_lt_iff (denominator_scaled_pos pos fraction.leadingExponent)
    0x10000000000000
  rw [value_scaled] at quotient
  unfold significantExponent
  dsimp only
  split
  · next small =>
    have short := quotient.mp small
    push_cast at short
    rw [zpow_add_one₀ two_ne_zero, ← mul_assoc]
    constructor <;> linarith
  · next large =>
    have enough := mt quotient.mpr large
    push_cast at enough
    constructor <;> linarith

end Significand

theorem denominator_toBinary64_pos (fraction : Fraction) : 0 < fraction.toBinary64.denominator := by
  unfold toBinary64
  split
  · exact Nat.one_pos
  · exact denominator_scaled_pos Nat.one_pos _

/-- A fraction is rounded to the nearest value with 53 significant bits. -/
theorem isBinary64_toBinary64 (fraction : Fraction) (pos : 0 < fraction.denominator) :
    IsBinary64 fraction.value fraction.toBinary64.value := by
  unfold toBinary64
  split
  · next zero =>
    have none : fraction.value = 0 := by simp [value, zero]
    rw [none, value_ofNat, Nat.cast_zero]
    exact .zero
  · next nonzero =>
    obtain ⟨low, high⟩ := significantExponent_bounds nonzero pos
    dsimp only
    rw [value_scaled, value_ofNat]
    apply IsBinary64.scaled low high
    rw [← value_scaled]
    exact isRounded_roundQuotient _ (denominator_scaled_pos pos _)

end Fraction

namespace IsBinary64

theorem natCast (whole : ℕ) (small : whole < 2 ^ 53) : IsBinary64 whole whole := by
  have rounded := Fraction.isBinary64_toBinary64 (.ofNat whole) Nat.one_pos
  rw [Fraction.value_ofNat] at rounded
  rwa [rounded.eq_of_natCast rfl small] at rounded

theorem one : IsBinary64 1 1 := by
  exact_mod_cast natCast 1 (by norm_num)

theorem two_zpow (exponent : ℤ) : IsBinary64 (2 ^ exponent) (2 ^ exponent) := by
  have place : (2 : ℚ) ^ exponent * 2 ^ (52 - exponent) = (2 ^ 52 : ℕ) := by
    rw [← zpow_add₀ two_ne_zero, add_sub_cancel]
    norm_num
  have back : ((2 ^ 52 : ℕ) : ℚ) * 2 ^ (-(52 - exponent)) = 2 ^ exponent := by
    rw [← place, mul_assoc, ← zpow_add₀ two_ne_zero, add_neg_cancel, zpow_zero, mul_one]
  have scaled : IsBinary64 (2 ^ exponent) ((2 ^ 52 : ℕ) * 2 ^ (-(52 - exponent))) := by
    apply IsBinary64.scaled <;> rw [place]
    · norm_num
    · norm_num
    · exact .natCast _
  rwa [back] at scaled

theorem unique {value nearest other : ℚ} (isNearest : IsBinary64 value nearest)
    (isOther : IsBinary64 value other) : nearest = other :=
  le_antisymm (isNearest.le isOther le_rfl) (isOther.le isNearest le_rfl)

theorem eq_of_natCast_le {whole : ℕ} {nearest : ℚ} (isNearest : IsBinary64 whole nearest)
    (atMost : whole ≤ 2 ^ 53) : nearest = whole := by
  rcases atMost.eq_or_lt with rfl | small
  · apply isNearest.unique
    exact_mod_cast two_zpow 53
  · exact isNearest.eq_of_natCast rfl small

/-- A rounded value stays as it is, also if it is brought to another power of two. -/
theorem mul_two_zpow {value nearest : ℚ} (isNearest : IsBinary64 value nearest) (shift : ℤ) :
    IsBinary64 (nearest * 2 ^ shift) (nearest * 2 ^ shift) := by
  cases isNearest with
  | zero =>
    rw [zero_mul]
    exact .zero
  | @scaled _ exponent significand low high rounded =>
    have powers : (2 : ℚ) ^ (-exponent) * 2 ^ shift = 2 ^ (-(exponent - shift)) := by
      rw [← zpow_add₀ two_ne_zero, neg_sub, sub_eq_neg_add]
    have place : (significand : ℚ) * 2 ^ (-(exponent - shift)) * 2 ^ (exponent - shift) =
        significand := by
      rw [mul_assoc, ← zpow_add₀ two_ne_zero, neg_add_cancel, zpow_zero, mul_one]
    rw [mul_assoc, powers]
    rcases (significand_le_two_pow high rounded).eq_or_lt with full | short
    · have power : (significand : ℚ) * 2 ^ (-(exponent - shift)) =
          2 ^ (53 + -(exponent - shift)) := by
        rw [full, zpow_add₀ two_ne_zero]
        norm_cast
      rw [power]
      exact two_zpow _
    · apply IsBinary64.scaled <;> rw [place]
      · exact two_pow_le_significand low rounded
      · exact short
      · exact .natCast significand

end IsBinary64

/-- Zero, or at most so many powers of two above or below one. -/
def Within (bits : ℕ) (value : ℚ) : Prop :=
  value = 0 ∨ 2 ^ (-bits : ℤ) ≤ value ∧ value ≤ 2 ^ (bits : ℤ)

namespace Within

variable {bits otherBits : ℕ} {first second : ℚ}

theorem natCast {whole : ℕ} (atMost : whole ≤ 2 ^ bits) : Within bits whole := by
  rcases Nat.eq_zero_or_pos whole with rfl | pos
  · exact .inl Nat.cast_zero
  · have one : (2 : ℚ) ^ (-bits : ℤ) ≤ 1 := zpow_le_one_of_nonpos₀ one_le_two (by omega)
    right
    constructor
    · exact one.trans (by exact_mod_cast pos)
    · rw [zpow_natCast]
      exact_mod_cast atMost

theorem mono (within : Within bits first) (more : bits ≤ otherBits) : Within otherBits first := by
  rcases within with zero | ⟨low, high⟩
  · exact .inl zero
  · right
    constructor
    · exact (zpow_le_zpow_right₀ one_le_two (by omega)).trans low
    · exact high.trans (zpow_le_zpow_right₀ one_le_two (by omega))

theorem mul (within : Within bits first) (other : Within otherBits second) :
    Within (bits + otherBits) (first * second) := by
  rcases within with zero | ⟨low, high⟩
  · exact .inl (by rw [zero, zero_mul])
  rcases other with otherZero | ⟨otherLow, otherHigh⟩
  · exact .inl (by rw [otherZero, mul_zero])
  have pos : 0 ≤ first := (IsBinary64.two_zpow_pos _).le.trans low
  have otherPos : 0 ≤ second := (IsBinary64.two_zpow_pos _).le.trans otherLow
  right
  rw [Nat.cast_add, neg_add, zpow_add₀ two_ne_zero, zpow_add₀ two_ne_zero]
  constructor
  · exact mul_le_mul low otherLow (IsBinary64.two_zpow_pos _).le pos
  · exact mul_le_mul high otherHigh otherPos (IsBinary64.two_zpow_pos _).le

theorem inv (within : Within bits first) : Within bits first⁻¹ := by
  rcases within with zero | ⟨low, high⟩
  · exact .inl (by rw [zero, inv_zero])
  · right
    constructor
    · rw [zpow_neg]
      exact inv_anti₀ ((IsBinary64.two_zpow_pos _).trans_le low) high
    · rw [← inv_inv ((2 : ℚ) ^ (bits : ℤ)), ← zpow_neg]
      exact inv_anti₀ (IsBinary64.two_zpow_pos _) low

theorem div (within : Within bits first) (other : Within otherBits second) :
    Within (bits + otherBits) (first / second) := by
  rw [div_eq_mul_inv]
  exact within.mul other.inv

/-- Rounding to significant bits leads to no larger and no smaller power of two. -/
theorem rounded {value nearest : ℚ} (within : Within bits value)
    (isNearest : IsBinary64 value nearest) : Within bits nearest := by
  rcases within with zero | ⟨low, high⟩
  · rw [zero] at isNearest
    exact .inl (le_antisymm (isNearest.le .zero le_rfl) isNearest.nonneg)
  · right
    constructor
    · exact (IsBinary64.two_zpow _).le isNearest low
    · exact isNearest.le (IsBinary64.two_zpow _) high

end Within

/-- The nearest floating-point number of 64 bits. Within 1022 powers of two of one, these are all
numbers with 53 significant bits. -/
structure IsDouble (value nearest : ℚ) : Prop where
  rounded : IsBinary64 value nearest
  inRange : Within 1022 nearest

end SymbolFootprint
