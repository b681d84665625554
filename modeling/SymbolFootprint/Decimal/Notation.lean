import SymbolFootprint.Decimal.Rounding

/-!
Decimal texts: whole numbers, whole numbers in groups of three digits, and fractions with a fixed
number of places.
-/

namespace SymbolFootprint.Decimal

def digits (n : Nat) : List Char :=
  Nat.toDigits 10 n

/-- Digits with a comma before each group of three. -/
def grouped : List Char → List Char
  | [] => []
  | [digit] => [digit]
  | digit :: next :: rest =>
    if (next :: rest).length % 3 = 0 then digit :: ',' :: grouped (next :: rest)
    else digit :: grouped (next :: rest)

def zeroFilled (width : Nat) (text : List Char) : List Char :=
  List.replicate (width - text.length) '0' ++ text

/-- The fraction with the given number of places after the point. -/
def fixed (places : Nat) (fraction : Fraction) : List Char :=
  let scale := Nat.pow 10 places
  let units := roundQuotient (fraction.numerator * scale) fraction.denominator
  digits (units / scale) ++ '.' :: zeroFilled places (digits (units % scale))

end SymbolFootprint.Decimal
