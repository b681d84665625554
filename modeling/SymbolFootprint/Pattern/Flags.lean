import SymbolFootprint.Pattern.Expr

/-!
Flags, which change how the parts of a pattern after them are read.
-/

namespace SymbolFootprint.Pattern

structure Flags where
  /-- Letters stand for their variants in the other case too. -/
  caseless : Bool := false
  /-- The signs for start and stop mean lines and not the whole text. -/
  multiLine : Bool := false
  /-- The dot stands for the ends of lines too. -/
  dotAll : Bool := false
  /-- Lines end at carriage returns too. -/
  anyLine : Bool := false
  /-- Blanks and comments in the pattern are passed over. -/
  verbose : Bool := false
  /-- Characters are those of Unicode, and not of ASCII alone. -/
  unicode : Bool := true
deriving DecidableEq

namespace Flags

/-- The flags after one of them has been turned on or off. The letter `U` is about which of several
fitting pieces is taken, and so changes nothing about whether there is one. -/
def turn (flags : Flags) (letter : Char) (on : Bool) : Flags :=
  if letter = 'i' then { flags with caseless := on }
  else if letter = 'm' then { flags with multiLine := on }
  else if letter = 's' then { flags with dotAll := on }
  else if letter = 'R' then { flags with anyLine := on }
  else if letter = 'x' then { flags with verbose := on }
  else if letter = 'u' then { flags with unicode := on }
  else flags

def letters : List Char := ['i', 'm', 's', 'U', 'u', 'R', 'x']

/-- A list of flags, up to the sign that ends it. -/
structure Directive where
  /-- The letters with what becomes of their flags. -/
  items : List (Char × Bool)
  ending : Char
deriving DecidableEq

/-- Reads a list of flags. Those after a hyphen are turned off; there is at most one hyphen, a flag
must follow it, and no letter stands twice. -/
def read? (on dangling : Bool) (seen : List Char) : List Char → Option (Directive × List Char)
  | [] => none
  | c :: rest =>
    if c = ':' ∨ c = ')' then if dangling then none else some (⟨[], c⟩, rest)
    else if c = '-' then if on then read? false true seen rest else none
    else if c ∈ letters ∧ c ∉ seen then
      (read? on false (c :: seen) rest).map fun (directive, rest) =>
        ({ directive with items := (c, on) :: directive.items }, rest)
    else none

def change (flags : Flags) (items : List (Char × Bool)) : Flags :=
  items.foldl (fun flags item => flags.turn item.1 item.2) flags

def fold (flags : Flags) (set : CharSet) : CharSet :=
  if flags.caseless then if flags.unicode then .caseless set else .asciiCaseless set else set

/-- The set, or what it leaves out. Without Unicode nothing can be left out: what remains would not
be text. -/
def negate? (flags : Flags) (negated : Bool) (set : CharSet) : Option CharSet :=
  if !negated then some set else if flags.unicode then some (.complement set) else none

/-- A character that is written out. Without Unicode it must be one of ASCII. -/
def char? (flags : Flags) (c : Char) : Option Char :=
  if flags.unicode || c.toNat < 0x80 then some c else none

def literal (flags : Flags) (c : Char) : Expr :=
  .oneOf (flags.fold (.single c))

def dot? (flags : Flags) : Option CharSet :=
  if !flags.unicode then none
  else if flags.dotAll then some .all
  else if flags.anyLine then some (.complement (.ranges [('\n', '\n'), ('\r', '\r')]))
  else some (.complement (.single '\n'))

def startLook (flags : Flags) : Look :=
  if !flags.multiLine then .textStart else if flags.anyLine then .anyLineStart else .lineStart

def stopLook (flags : Flags) : Look :=
  if !flags.multiLine then .textStop else if flags.anyLine then .anyLineStop else .lineStop

def wordLook (flags : Flags) (place : WordPlace) : Look :=
  if flags.unicode then .word place else .asciiWord place

end Flags

end SymbolFootprint.Pattern
