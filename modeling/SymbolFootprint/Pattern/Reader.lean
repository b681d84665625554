import SymbolFootprint.Pattern.Class

/-!
Reading patterns.

A pattern is read from left to right with a list of the groups that are open (`Reading`). Flags that
are set in the middle of a group hold up to its end.
-/

namespace SymbolFootprint.Pattern

/-- What stands in a row: an expression, or a change of flags, which cannot be repeated. -/
structure Item where
  expr : Nested Expr
  repeatable : Bool
deriving DecidableEq

namespace Item

def ofExpr (expr : Expr) : Item :=
  ⟨.flat expr, true⟩

def flags : Item :=
  ⟨.flat .empty, false⟩

end Item

/-- A group that has not been closed, in which alternatives stand beside each other. -/
structure OpenGroup where
  /-- The alternatives before the last bar, in reverse. -/
  alternatives : List (Nested Expr) := []
  /-- What stands after the last bar, in reverse. -/
  items : List Item := []
  /-- The flags that hold where the reading goes on. -/
  flags : Flags := {}
deriving DecidableEq

namespace OpenGroup

def add (group : OpenGroup) (item : Item) : OpenGroup :=
  { group with items := item :: group.items }

def row (group : OpenGroup) : Nested Expr :=
  .gather .seq .empty (group.items.reverse.map Item.expr)

def bar (group : OpenGroup) : OpenGroup :=
  { group with alternatives := group.row :: group.alternatives, items := [] }

def content (group : OpenGroup) : Nested Expr :=
  .gather .either .empty (group.row :: group.alternatives).reverse

def repeatLast? (group : OpenGroup) (least : Nat) (most : Option Nat) : Option OpenGroup :=
  match group.items with
  | [] => none
  | item :: before =>
    if item.repeatable then
      let ⟨piece, depth⟩ := item.expr
      some { group with items := ⟨⟨.repeated piece least most, depth + 1⟩, true⟩ :: before }
    else none

end OpenGroup

structure Reading where
  group : OpenGroup
  /-- The groups around the innermost one. -/
  outer : List OpenGroup
  /-- The names of groups so far. -/
  names : List (List Char)
  rest : List Char
deriving DecidableEq

namespace Reading

/-- The text without a question mark in front: it says which of several fitting pieces is taken. -/
def skipPreference : List Char → List Char
  | '?' :: rest => rest
  | rest => rest

def repeatLast? (reading : Reading) (least : Nat) (most : Option Nat) (rest : List Char) :
    Option Reading :=
  (reading.group.repeatLast? least most).map fun group =>
    { reading with group, rest := skipPreference rest }

/-- Numbers of repetitions in braces: the number, the least one, or the least and the greatest. -/
def readBounds? (verbose : Bool) (text : List Char) :
    Option ((Nat × Option Nat) × List Char) := do
  let (least, rest) ← number? verbose text
  match rest with
  | '\x7d' :: rest => some ((least, some least), rest)
  | ',' :: rest =>
    match skip verbose rest with
    | '\x7d' :: rest => some ((least, none), rest)
    | rest => do
      let (most, rest) ← number? verbose rest
      match rest with
      | '\x7d' :: rest => if least ≤ most then some ((least, some most), rest) else none
      | _ => none
  | _ => none

/-- Can the character be in the name of a group? -/
def isNameChar (isFirst : Bool) (c : Char) : Bool :=
  if isFirst then c = '_' || Text.isAlphabetic c
  else c ∈ ['_', '.', '[', ']'] || Text.isAlphabetic c || Text.isNumeric c

/-- The name of a group, up to the angle bracket after it. -/
def readName? (text : List Char) : Option (List Char × List Char) :=
  match text.takeWhile (· ≠ '>'), text.dropWhile (· ≠ '>') with
  | first :: more, _ :: rest =>
    if isNameChar true first && more.all (isNameChar false) then some (first :: more, rest)
    else none
  | _, _ => none

def enter (reading : Reading) (flags : Flags) (rest : List Char) : Reading :=
  { reading with group := { flags }, outer := reading.group :: reading.outer, rest }

/-- The reading inside a new group with a name, which no other group has. -/
def enterNamed? (reading : Reading) (text : List Char) : Option Reading := do
  let (name, rest) ← readName? text
  if name ∈ reading.names then none
  else some { reading.enter reading.group.flags rest with names := name :: reading.names }

/-- Reads what follows an opening parenthesis: tests on the text around are not known, a name opens
a group, flags open a group or hold from here on. -/
def readOpening? (reading : Reading) (text : List Char) : Option Reading := do
  let flags := reading.group.flags
  match skip flags.verbose text with
  | '?' :: '=' :: _ | '?' :: '!' :: _ | '?' :: '<' :: '=' :: _ | '?' :: '<' :: '!' :: _ => none
  | '?' :: 'P' :: '<' :: rest | '?' :: '<' :: rest => reading.enterNamed? rest
  | '?' :: rest =>
    let (directive, rest) ← Flags.read? true false [] rest
    let changed := flags.change directive.items
    if directive.ending = ':' then some (reading.enter changed rest)
    else if directive.items = [] then none
    else some { reading with group := { reading.group.add .flags with flags := changed }, rest }
  | rest => some (reading.enter flags rest)

def leave? (reading : Reading) (rest : List Char) : Option Reading :=
  match reading.outer with
  | [] => none
  | group :: outer =>
    some { reading with group := group.add ⟨reading.group.content.deepen, true⟩, outer, rest }

def add (reading : Reading) (expr : Expr) (rest : List Char) : Reading :=
  { reading with group := reading.group.add (.ofExpr expr), rest }

def readEscape? (reading : Reading) (rest : List Char) : Option Reading := do
  let flags := reading.group.flags
  let (escaped, rest) ← Escaped.read? flags rest
  match escaped with
  | .char c => some (reading.add (flags.literal c) rest)
  | .oneOf set => some (reading.add (.oneOf set) rest)
  | .look test => some (reading.add (.look test) rest)

def readBracket? (reading : Reading) (rest : List Char) : Option Reading := do
  let (set, rest) ← Bracket.read? reading.group.flags rest
  some { reading with group := reading.group.add ⟨⟨.oneOf set.value, set.depth⟩, true⟩, rest }

def readRepetition? (reading : Reading) (rest : List Char) : Option Reading := do
  let verbose := reading.group.flags.verbose
  let ((least, most), rest) ← readBounds? verbose (skip verbose rest)
  reading.repeatLast? least most (skip verbose rest)

def advance? (reading : Reading) (c : Char) (rest : List Char) : Option Reading :=
  let flags := reading.group.flags
  if c = '(' then reading.readOpening? rest
  else if c = ')' then reading.leave? rest
  else if c = '|' then some { reading with group := reading.group.bar, rest }
  else if c = '[' then reading.readBracket? rest
  else if c = '?' then reading.repeatLast? 0 (some 1) rest
  else if c = '*' then reading.repeatLast? 0 none rest
  else if c = '+' then reading.repeatLast? 1 none rest
  else if c = '\x7b' then reading.readRepetition? rest
  else if c = '\\' then reading.readEscape? rest
  else if c = '.' then flags.dot?.map fun set => reading.add (.oneOf set) rest
  else if c = '^' then some (reading.add (.look flags.startLook) rest)
  else if c = '$' then some (reading.add (.look flags.stopLook) rest)
  else (flags.char? c).map fun c => reading.add (flags.literal c) rest

/-- Reads on to the end, where no group may be open. Each step takes at least one character, so as
many steps as there are characters are enough. -/
def finish? : Nat → Reading → Option (Nested Expr)
  | 0, _ => none
  | steps + 1, reading =>
    match skip reading.group.flags.verbose reading.rest with
    | [] => if reading.outer = [] then some reading.group.content else none
    | c :: rest =>
      match reading.advance? c rest with
      | none => none
      | some reading => finish? steps reading

def readAll? (text : List Char) : Option (Nested Expr) :=
  finish? (text.length + 1) ⟨{}, [], [], text⟩

end Reading

end SymbolFootprint.Pattern
