import SymbolFootprint.Decimal.Notation
import SymbolFootprint.Size

/-!
How reports write sizes: in bytes with groups of three digits, in kilobytes with two places, and as
a part of a total in percent with one place. Kilobytes and percentages are computed in fractions
with 53 significant bits, each step rounded.
-/

namespace SymbolFootprint.Amount

def bytesText (size : Size) : List Char :=
  Decimal.grouped (Decimal.digits size.bytes)

def binary64 (size : Size) : Fraction :=
  (Fraction.ofNat size.bytes).toBinary64

/-- Kilobytes of 1024 bytes. Dividing by a power of two needs no rounding. -/
def kilobytes (size : Size) : Fraction :=
  (binary64 size).div (.ofNat 1024)

def kilobytesText (size : Size) : List Char :=
  Decimal.fixed 2 (kilobytes size) ++ " KB".toList

/-- The part of a total in percent; nothing is no part of an empty total. -/
def percentage (part total : Size) : Fraction :=
  if total = 0 then .ofNat 0
  else ((((binary64 part).div (binary64 total)).toBinary64).times 100).toBinary64

def percentageText (part total : Size) : List Char :=
  Decimal.fixed 1 (percentage part total)

end SymbolFootprint.Amount
