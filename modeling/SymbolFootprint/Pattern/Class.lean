import SymbolFootprint.Pattern.Escape
import SymbolFootprint.Pattern.Nested

/-!
Sets of characters in brackets.

A bracket holds characters, ranges, named sets and further brackets, and these may be combined by
operators, of which none binds stronger than another. Brackets are read with a list of those that
are open.
-/

namespace SymbolFootprint.Pattern

structure Bracket where
  negated : Bool
  /-- What stands before the last operator, with the operator. -/
  left? : Option (Nested CharSet × SetOperation)
  /-- What stands after the last operator, in reverse. -/
  members : List (Nested CharSet)
deriving DecidableEq

namespace Bracket

/-- The names of sets that stand in a bracket between colons. -/
def namedSets : List (String × List (Char × Char)) :=
  [("alnum", [('0', '9'), ('A', 'Z'), ('a', 'z')]),
    ("alpha", [('A', 'Z'), ('a', 'z')]),
    ("ascii", [('\x00', '\x7F')]),
    ("blank", [('\t', '\t'), (' ', ' ')]),
    ("cntrl", [('\x00', '\x1F'), ('\x7F', '\x7F')]),
    ("digit", [('0', '9')]),
    ("graph", [('!', '~')]),
    ("lower", [('a', 'z')]),
    ("print", [(' ', '~')]),
    ("punct", [('!', '/'), (':', '@'), ('[', '\x60'), ('\x7b', '~')]),
    ("space", [('\t', '\r'), (' ', ' ')]),
    ("upper", [('A', 'Z')]),
    ("word", [('0', '9'), ('A', 'Z'), ('_', '_'), ('a', 'z')]),
    ("xdigit", [('0', '9'), ('A', 'F'), ('a', 'f')])]

/-- A named set and whether its opposite is meant, after an opening bracket. -/
def readNamed? (text : List Char) : Option (CharSet × Bool × List Char) := do
  let inside ← Text.afterStart? [':'] text
  let (negated, inside) :=
    match inside with
    | '^' :: rest => (true, rest)
    | _ => (false, inside)
  let name := inside.takeWhile (· ≠ ':')
  let rest ← Text.afterStart? [':', ']'] (inside.dropWhile (· ≠ ':'))
  let ranges ← namedSets.lookup (String.ofList name)
  some (.ranges ranges, negated, rest)

def add (bracket : Bracket) (member : Nested CharSet) : Bracket :=
  { bracket with members := member :: bracket.members }

def right (bracket : Bracket) : Nested CharSet :=
  .gather .union .none bracket.members.reverse

def content (bracket : Bracket) (flags : Flags) : Nested CharSet :=
  match bracket.left? with
  | none => bracket.right
  | some (left, operation) =>
    let right := bracket.right
    ⟨.combine operation (flags.fold left.value) (flags.fold right.value),
      max left.depth right.depth + 1⟩

def operate (bracket : Bracket) (flags : Flags) (operation : SetOperation) : Bracket :=
  { bracket with left? := some (bracket.content flags, operation), members := [] }

def close? (bracket : Bracket) (flags : Flags) : Option (Nested CharSet) := do
  let content := bracket.content flags
  let set ← flags.negate? bracket.negated (flags.fold content.value)
  some ⟨set, content.depth + 1⟩

/-- The hyphens in front, which stand for themselves where a bracket opens. -/
def readHyphens (flags : Flags) : List Char → List (Nested CharSet) × List Char
  | [] => ([], [])
  | c :: rest =>
    if c = '-' then
      let (more, rest) := readHyphens flags rest
      (.flat (.single '-') :: more, rest)
    else if flags.verbose ∧ Text.isBlank c then readHyphens flags rest
    else ([], c :: rest)

/-- Reads what may follow an opening bracket only: the sign of negation, hyphens, and a closing
bracket that stands for itself. -/
def opened (flags : Flags) (text : List Char) : Bracket × List Char :=
  let (negated, text) :=
    match skip flags.verbose text with
    | '^' :: rest => (true, skip flags.verbose rest)
    | text => (false, text)
  match readHyphens flags text with
  | ([], ']' :: rest) => (⟨negated, none, [.flat (.single ']')]⟩, rest)
  | (hyphens, rest) => (⟨negated, none, hyphens⟩, rest)

def readItem? (flags : Flags) : List Char → Option (Escaped × List Char)
  | [] => none
  | '\\' :: rest => Escaped.read? flags rest
  | c :: rest => (flags.char? c).map fun c => (.char c, rest)

/-- Does a hyphen in front start the second half of a range? It does not before a closing bracket or
another hyphen. -/
def startsRange (flags : Flags) (text : List Char) : Bool :=
  match text with
  | '-' :: rest => (skip flags.verbose rest).head? ∉ [some ']', some '-']
  | _ => false

/-- A character, a set or a range in a bracket. A range has characters at both ends, the first of
which does not come after the last. -/
def readMember? (flags : Flags) (text : List Char) : Option (CharSet × List Char) := do
  let (first, rest) ← readItem? flags text
  let rest := skip flags.verbose rest
  if startsRange flags rest then
    let (last, rest) ← readItem? flags (skip flags.verbose (rest.drop 1))
    match first, last with
    | .char first, .char last => if first ≤ last then some (.range first last, rest) else none
    | _, _ => none
  else
    match first with
    | .char c => some (.single c, rest)
    | .oneOf set => some (set, rest)
    | .look _ => none

def readOperator? : List Char → Option (SetOperation × List Char)
  | '&' :: '&' :: rest => some (.intersection, rest)
  | '-' :: '-' :: rest => some (.difference, rest)
  | '~' :: '~' :: rest => some (.symmetricDifference, rest)
  | _ => none

/-- Where the reading of brackets stands: the innermost open one, those around it, and what follows.
-/
structure Place where
  bracket : Bracket
  outer : List Bracket
  rest : List Char
deriving DecidableEq

/-- What a step comes to: a new place, or the set for the outermost bracket and what follows it. -/
inductive Outcome where
  | goOn (place : Place)
  | done (set : Nested CharSet) (rest : List Char)
deriving DecidableEq

namespace Place

/-- The place after a bracket has been opened inside the innermost one. -/
def enter (place : Place) (flags : Flags) (rest : List Char) : Place :=
  let (inner, rest) := Bracket.opened flags rest
  ⟨inner, place.bracket :: place.outer, rest⟩

def advance? (place : Place) (flags : Flags) (c : Char) (rest : List Char) : Option Outcome := do
  if c = '[' then
    match readNamed? rest with
    | some (set, negated, rest) =>
      let set ← flags.negate? negated (flags.fold set)
      some (.goOn { place with bracket := place.bracket.add (.flat set), rest })
    | none => some (.goOn (place.enter flags rest))
  else if c = ']' then
    let set ← place.bracket.close? flags
    match place.outer with
    | [] => some (.done set rest)
    | bracket :: outer => some (.goOn ⟨bracket.add set, outer, rest⟩)
  else
    match readOperator? (c :: rest) with
    | some (operation, rest) =>
      some (.goOn { place with bracket := place.bracket.operate flags operation, rest })
    | none =>
      let (set, rest) ← readMember? flags (c :: rest)
      some (.goOn { place with bracket := place.bracket.add (.flat set), rest })

/-- Reads on until the outermost bracket is closed. Each step takes at least one character, so as
many steps as there are characters are enough. -/
def finish? (flags : Flags) : Nat → Place → Option (Nested CharSet × List Char)
  | 0, _ => none
  | steps + 1, place => do
    match skip flags.verbose place.rest with
    | [] => none
    | c :: rest =>
      match ← place.advance? flags c rest with
      | .done set rest => some (set, rest)
      | .goOn place => finish? flags steps place

end Place

/-- Reads what follows an opening bracket, up to the bracket that closes it. -/
def read? (flags : Flags) (text : List Char) : Option (Nested CharSet × List Char) :=
  let (bracket, rest) := Bracket.opened flags text
  Place.finish? flags (text.length + 1) ⟨bracket, [], rest⟩

end Bracket

end SymbolFootprint.Pattern
