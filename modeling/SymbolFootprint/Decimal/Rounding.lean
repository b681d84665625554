/-!
Rounding to the nearest value, where a tie goes to the even neighbour: quotients to whole numbers,
and fractions to the fractions with 53 significant bits.
-/

namespace SymbolFootprint

/-- A fraction of natural numbers; the denominator is meant to be positive. -/
structure Fraction where
  numerator : Nat
  denominator : Nat
deriving DecidableEq

/-- The whole number nearest to a quotient. -/
def roundQuotient (numerator denominator : Nat) : Nat :=
  let quotient := numerator / denominator
  let twice := 2 * (numerator % denominator)
  if twice < denominator ∨ (twice = denominator ∧ quotient % 2 = 0) then quotient else quotient + 1

namespace Fraction

def ofNat (n : Nat) : Fraction := ⟨n, 1⟩

/-- The fraction times a power of two, where a negative exponent divides. -/
def scaled (fraction : Fraction) : Int → Fraction
  | .ofNat exponent => ⟨fraction.numerator * Nat.pow 2 exponent, fraction.denominator⟩
  | .negSucc exponent => ⟨fraction.numerator, fraction.denominator * Nat.pow 2 (exponent + 1)⟩

/-- An exponent that brings a positive fraction to at least `2 ^ 51` and below `2 ^ 53`. -/
def leadingExponent (fraction : Fraction) : Int :=
  (52 : Int) + fraction.denominator.log2 - fraction.numerator.log2

/-- The exponent that brings a positive fraction to at least `2 ^ 52` and below `2 ^ 53`. -/
def significantExponent (fraction : Fraction) : Int :=
  let exponent := fraction.leadingExponent
  let brought := fraction.scaled exponent
  if brought.numerator / brought.denominator < 0x10000000000000 then exponent + 1 else exponent

/-- The nearest fraction with 53 significant bits. -/
def toBinary64 (fraction : Fraction) : Fraction :=
  if fraction.numerator = 0 then ofNat 0
  else
    let exponent := fraction.significantExponent
    let brought := fraction.scaled exponent
    (ofNat (roundQuotient brought.numerator brought.denominator)).scaled (-exponent)

def div (a b : Fraction) : Fraction :=
  ⟨a.numerator * b.denominator, a.denominator * b.numerator⟩

def times (fraction : Fraction) (n : Nat) : Fraction :=
  ⟨fraction.numerator * n, fraction.denominator⟩

end Fraction

end SymbolFootprint
