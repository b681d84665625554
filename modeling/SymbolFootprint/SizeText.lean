import SymbolFootprint.Size
import SymbolFootprint.Text.Blank

/-!
Sizes as tools print them: decimal digits, or hexadecimal digits with or without a leading `0x`.
-/

namespace SymbolFootprint

inductive DigitFault where
  | empty
  | invalidDigit
  | tooLarge
deriving DecidableEq

namespace DigitFault

def message : DigitFault → String
  | .empty => "cannot parse integer from empty string"
  | .invalidDigit => "invalid digit found in string"
  | .tooLarge => "number too large to fit in target type"

end DigitFault

/-- The value of a digit, in bases up to sixteen. -/
def digitValue? (base : Nat) (c : Char) : Option Nat :=
  let value? :=
    if '0' ≤ c ∧ c ≤ '9' then some (c.toNat - '0'.toNat)
    else if 'a' ≤ c ∧ c ≤ 'f' then some (c.toNat - 'a'.toNat + 10)
    else if 'A' ≤ c ∧ c ≤ 'F' then some (c.toNat - 'A'.toNat + 10)
    else none
  value?.filter (· < base)

namespace Size

/-- Appends the digits to the number read so far, from left to right. A character that is no digit
is found before the digit in its place could make the number too large. -/
def appendDigits (base : Nat) (soFar : Size) : List Char → Except DigitFault Size
  | [] => .ok soFar
  | c :: rest =>
    match digitValue? base c with
    | none => .error .invalidDigit
    | some digit =>
      match ofNat? (soFar.bytes * base + digit) with
      | none => .error .tooLarge
      | some next => appendDigits base next rest

/-- A number in the given base: at least one digit, after an optional plus sign. -/
def ofDigits (base : Nat) : List Char → Except DigitFault Size
  | [] => .error .empty
  | ['+'] => .error .invalidDigit
  | '+' :: digits => appendDigits base 0 digits
  | digits => appendDigits base 0 digits

end Size

/-- Why a text is no size; the text is kept without the blanks around it. -/
inductive SizeFault where
  | hexadecimal (text : String) (why : DigitFault)
  | number (text : String) (why : DigitFault)
deriving DecidableEq

namespace SizeFault

def message : SizeFault → String
  | .hexadecimal text why => s!"Invalid hexadecimal size '{text}': {why.message}"
  | .number text why => s!"Invalid size '{text}': {why.message}"

end SizeFault

namespace Size

/-- Reads a size. Text that is no decimal number is tried as a hexadecimal one, and the reason given
for text that is neither is that of the second try. -/
def parse (text : List Char) : Except SizeFault Size :=
  let trimmed := Text.trim text
  match trimmed with
  | '0' :: 'x' :: digits | '0' :: 'X' :: digits =>
    (ofDigits 16 digits).mapError (.hexadecimal (String.ofList trimmed))
  | _ =>
    match ofDigits 10 trimmed with
    | .ok size => .ok size
    | .error _ => (ofDigits 16 trimmed).mapError (.number (String.ofList trimmed))

end Size

end SymbolFootprint
