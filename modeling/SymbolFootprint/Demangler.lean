import SymbolFootprint.Rules

/-!
Taking identifiers apart into namespace, type and member.

Two demanglers share the order of decisions (`Demangler.demangle`): reserved prefixes first, then
identifiers that are too short, then the demangler's own way to take the segments apart, and last
the bucket of unknown identifiers.
-/

namespace SymbolFootprint

inductive Demangler where
  /-- Trusts identifiers that start with a known root namespace. -/
  | roots
  /-- Tells namespaces from types by the case of initial letters. -/
  | casing
deriving DecidableEq

structure UnknownDemangler where
  name : String
deriving DecidableEq

namespace UnknownDemangler

def message (fault : UnknownDemangler) : String :=
  s!"unknown demangler '{fault.name}' (expected 'roots' or 'casing')"

end UnknownDemangler

namespace Demangler

def name : Demangler → String
  | .roots => "roots"
  | .casing => "casing"

def ofName (name : String) : Except UnknownDemangler Demangler :=
  if name ∈ ["roots", "known-roots"] then .ok .roots
  else if name = "casing" then .ok .casing
  else .error ⟨name⟩

def dotted (parts : List String) : String :=
  Rules.joinedBy '.' parts

def isAsciiLower (c : Char) : Bool := 'a' ≤ c && c ≤ 'z'

def isAsciiUpper (c : Char) : Bool := 'A' ≤ c && c ≤ 'Z'

def isAsciiDigit (c : Char) : Bool := '0' ≤ c && c ≤ '9'

/-- Is the segment a number of type parameters? -/
def isArity (segment : String) : Bool :=
  segment ≠ "" && segment.toList.all isAsciiDigit

def startsWith (initial : Char → Bool) (segment : String) : Bool :=
  segment.toList.head?.any initial

/-- Takes segments apart from the end: the member, the type, and before them the namespace. A number
at the end belongs to the member before it, as long as type and namespace remain. -/
def splitByRoot (rules : Rules) (segments : List String) : Option Attribution :=
  if segments.head?.any rules.isKnownRoot then
    match segments.reverse with
    | last :: member :: type :: part :: parts =>
      if isArity last then
        some ⟨dotted (part :: parts).reverse, type, rules.joined [member, last]⟩
      else
        some ⟨dotted (type :: part :: parts).reverse, member, last⟩
    | [last, type, part] => some ⟨part, type, last⟩
    | _ => none
  else none

/-- Takes segments apart from the front: a run that starts in lower case is the namespace, the run
after it that starts in upper case is the type, and what remains is the member. A longer run of
types that reaches the end gives its last segment to the member. -/
def splitByCase (rules : Rules) (identifier : String) (segments : List String) : Attribution :=
  let parts := segments.takeWhile (startsWith isAsciiLower)
  let others := segments.dropWhile (startsWith isAsciiLower)
  let types := others.takeWhile (startsWith isAsciiUpper)
  let members := others.dropWhile (startsWith isAsciiUpper)
  match types, members with
  | [], _ => ⟨"", identifier, ""⟩
  | first :: second :: more, [] =>
    let run := first :: second :: more
    ⟨dotted parts, rules.joined run.dropLast, rules.joined (run.drop (run.length - 1))⟩
  | run, _ => ⟨dotted parts, rules.joined run, rules.joined members⟩

/-- The demangler's own way to take an identifier apart, where it has one. -/
def structured? (demangler : Demangler) (rules : Rules) (identifier : String) :
    Option Attribution :=
  match demangler with
  | .roots => splitByRoot rules (rules.segments identifier)
  | .casing => some (splitByCase rules identifier (rules.segments identifier))

def demangle (demangler : Demangler) (rules : Rules) (identifier : String) : Attribution :=
  (rules.reserved? identifier <|> rules.tooShort? identifier <|>
    demangler.structured? rules identifier).getD (Rules.unmatched identifier)

end Demangler

end SymbolFootprint
