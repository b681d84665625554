import SymbolFootprint.Text.Blank

/-!
Reading the pieces of a pattern that stand for no characters: blanks, comments, numbers and names in
braces.

Where a pattern is verbose, blanks mean nothing, and a comment runs from a number sign to the end of
the line.
-/

namespace SymbolFootprint.Pattern

def skipComments (inComment : Bool) : List Char → List Char
  | [] => []
  | c :: rest =>
    if inComment then skipComments (c ≠ '\n') rest
    else if Text.isBlank c then skipComments false rest
    else if c = '#' then skipComments true rest
    else c :: rest

def skip (verbose : Bool) (text : List Char) : List Char :=
  if verbose then skipComments false text else text

/-- The text up to a closing brace, and what follows the brace. -/
def braced? (verbose inComment : Bool) : List Char → Option (List Char × List Char)
  | [] => none
  | c :: rest =>
    if inComment then braced? verbose (c ≠ '\n') rest
    else if verbose ∧ Text.isBlank c then braced? verbose false rest
    else if verbose ∧ c = '#' then braced? verbose true rest
    else if c = '\x7d' then some ([], rest)
    else (braced? verbose false rest).map fun (text, rest) => (c :: text, rest)

/-- The characters that mean something, as many as told, and what follows them. -/
def take? (verbose : Bool) : Nat → List Char → Option (List Char × List Char)
  | 0, text => some ([], text)
  | count + 1, text =>
    match skip verbose text with
    | [] => none
    | c :: rest => (take? verbose count rest).map fun (text, rest) => (c :: text, rest)

def digits (verbose inComment : Bool) : List Char → List Char × List Char
  | [] => ([], [])
  | c :: rest =>
    if inComment then digits verbose (c ≠ '\n') rest
    else if '0' ≤ c ∧ c ≤ '9' then
      let (more, rest) := digits verbose false rest
      (c :: more, rest)
    else if verbose ∧ Text.isBlank c then digits verbose false rest
    else if verbose ∧ c = '#' then digits verbose true rest
    else ([], c :: rest)

/-- The text without the blanks in front, and without comments where the pattern is verbose. -/
def skipBlanks (verbose : Bool) (text : List Char) : List Char :=
  if verbose then skipComments false text else text.dropWhile Text.isBlank

def digitsValue (digits : List Char) : Nat :=
  digits.foldl (fun value c => 10 * value + (c.toNat - '0'.toNat)) 0

/-- A number between blanks, and what follows. Numbers are below `2 ^ 32`. -/
def number? (verbose : Bool) (text : List Char) : Option (Nat × List Char) :=
  match digits verbose false (skipBlanks verbose text) with
  | ([], _) => none
  | (found, rest) =>
    if digitsValue found < 0x100000000 then some (digitsValue found, skipBlanks verbose rest)
    else none

end SymbolFootprint.Pattern
