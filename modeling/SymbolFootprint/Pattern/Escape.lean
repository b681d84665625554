import SymbolFootprint.Pattern.Flags
import SymbolFootprint.Pattern.Property
import SymbolFootprint.Pattern.Skip
import SymbolFootprint.SizeText
import SymbolFootprint.Text.Affix

/-!
What stands after a backslash in a pattern: a character, a set of characters or a test on the place.
-/

namespace SymbolFootprint.Pattern

inductive Escaped where
  | char (c : Char)
  | oneOf (set : CharSet)
  | look (test : Look)
deriving DecidableEq

namespace Escaped

def codePoint? (digits : List Char) : Option Char :=
  if digits = [] ∨ digits.any (digitValue? 16 · = none) then none
  else
    let value := digits.foldl (fun value c => 16 * value + (digitValue? 16 c).getD 0) 0
    if value.isValidChar then some (Char.ofNat value) else none

/-- A code point in braces, or in as many digits as told. -/
def readCodePoint? (flags : Flags) (count : Nat) (text : List Char) :
    Option (Escaped × List Char) := do
  let (digits, rest) ←
    match skip flags.verbose text with
    | '\x7b' :: rest => braced? flags.verbose false rest
    | text => take? flags.verbose count text
  let c ← (codePoint? digits).bind flags.char?
  some (.char c, rest)

/-- The set for a property as it is written, and whether its opposite is meant. -/
def propertySet? (name : List Char) : Option (CharSet × Bool) :=
  match Text.cut? ['!', '='] name with
  | some (name, value) => (CharProperty.ofValueName? name value).map (·, true)
  | none =>
    match (Text.cut? [':'] name).or (Text.cut? ['='] name) with
    | some (name, value) => (CharProperty.ofValueName? name value).map (·, false)
    | none => (CharProperty.ofName? name).map (·, false)

def readProperty? (flags : Flags) (negated : Bool) (text : List Char) :
    Option (Escaped × List Char) := do
  let (name, rest) ←
    match skip flags.verbose text with
    | [] | '\\' :: _ => none
    | '\x7b' :: rest => braced? flags.verbose false rest
    | c :: rest => some ([c], rest)
  let (set, opposite) ← propertySet? name
  if flags.unicode then
    let set ← flags.negate? (negated != opposite) (flags.fold set)
    some (.oneOf set, rest)
  else none

def digitSet (flags : Flags) : CharSet :=
  if flags.unicode then .property (.category .decimalNumber) else .range '0' '9'

def blankSet (flags : Flags) : CharSet :=
  if flags.unicode then .property .blank else .ranges [('\t', '\r'), (' ', ' ')]

def wordSet (flags : Flags) : CharSet :=
  if flags.unicode then .property .word
  else .ranges [('0', '9'), ('A', 'Z'), ('_', '_'), ('a', 'z')]

/-- The set for its letter; in upper case the letter means the opposite. -/
def classSet? (flags : Flags) (letter : Char) : Option (Option CharSet) :=
  if letter = 'd' then some (some (digitSet flags))
  else if letter = 'D' then some (flags.negate? true (digitSet flags))
  else if letter = 's' then some (some (blankSet flags))
  else if letter = 'S' then some (flags.negate? true (blankSet flags))
  else if letter = 'w' then some (some (wordSet flags))
  else if letter = 'W' then some (flags.negate? true (wordSet flags))
  else none

def controls : List (Char × Char) :=
  [('a', '\x07'), ('f', '\x0C'), ('n', '\n'), ('r', '\r'), ('t', '\t'), ('v', '\x0B')]

def looks (flags : Flags) : List (Char × Look) :=
  [('A', .textStart), ('z', .textStop), ('B', flags.wordLook .notBoundary),
    ('<', flags.wordLook .start), ('>', flags.wordLook .stop)]

def placeNames : List (String × WordPlace) :=
  [("start", .start), ("end", .stop), ("start-half", .startHalf), ("end-half", .stopHalf)]

/-- Can the character be in a name of a place at words? -/
def isPlaceChar (c : Char) : Bool :=
  ('a' ≤ c && c ≤ 'z') || ('A' ≤ c && c ≤ 'Z') || c = '-'

/-- A place at words: one that is named in braces, or any boundary. Braces that hold no name belong
to a repetition. -/
def readPlace? (flags : Flags) (text : List Char) : Option (WordPlace × List Char) :=
  match text with
  | '\x7b' :: inside =>
    match skip flags.verbose inside with
    | [] => none
    | c :: _ =>
      if isPlaceChar c then do
        let (name, rest) ← braced? flags.verbose false inside
        let place ← placeNames.lookup (String.ofList name)
        some (place, rest)
      else some (.boundary, text)
  | _ => some (.boundary, text)

/-- Is the character one of ASCII that means itself after a backslash? -/
def isSign (c : Char) : Bool :=
  c.toNat < 0x80 && !(('a' ≤ c && c ≤ 'z') || ('A' ≤ c && c ≤ 'Z') || ('0' ≤ c && c ≤ '9')) &&
    c ≠ '<' && c ≠ '>'

def read? (flags : Flags) : List Char → Option (Escaped × List Char)
  | [] => none
  | c :: rest =>
    if c = 'x' then readCodePoint? flags 2 rest
    else if c = 'u' then readCodePoint? flags 4 rest
    else if c = 'U' then readCodePoint? flags 8 rest
    else if c = 'p' then readProperty? flags false rest
    else if c = 'P' then readProperty? flags true rest
    else if c = 'b' then
      (readPlace? flags rest).map fun (place, rest) => (.look (flags.wordLook place), rest)
    else if isSign c then some (.char c, rest)
    else
      match classSet? flags c, controls.lookup c, (looks flags).lookup c with
      | some set, _, _ => set.map fun set => (.oneOf set, rest)
      | _, some control, _ => some (.char control, rest)
      | _, _, some test => some (.look test, rest)
      | none, none, none => none

end Escaped

end SymbolFootprint.Pattern
