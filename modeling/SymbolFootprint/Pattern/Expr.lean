import SymbolFootprint.Pattern.CharSet

/-!
Expressions over characters, and whether a text holds a piece that fits one.

What fits may depend on the characters around it: a `Look` is a test on the character before a place
and the one after it. A text is read from left to right, and after each character a list of
expressions says what may come next (`Expr.step`).
-/

namespace SymbolFootprint.Pattern

/-- A place at words, told by the characters on its two sides. -/
inductive WordPlace where
  | boundary
  | notBoundary
  | start
  | stop
  /-- After no word character. -/
  | startHalf
  /-- Before no word character. -/
  | stopHalf
deriving DecidableEq

namespace WordPlace

/-- Is this the place, if there are word characters before and after it as told? -/
def holds : WordPlace → Bool → Bool → Bool
  | .boundary, before, after => before != after
  | .notBoundary, before, after => before == after
  | .start, before, after => !before && after
  | .stop, before, after => before && !after
  | .startHalf, before, _ => !before
  | .stopHalf, _, after => !after

end WordPlace

inductive Look where
  | textStart
  | textStop
  | lineStart
  | lineStop
  /-- The start of a line, where a carriage return and a line feed end lines, alone or together. -/
  | anyLineStart
  | anyLineStop
  | word (place : WordPlace)
  /-- The same, with the letters, digits and the underscore of ASCII as word characters. -/
  | asciiWord (place : WordPlace)
deriving DecidableEq

namespace Look

def isAsciiWordChar (c : Char) : Bool :=
  ('a' ≤ c && c ≤ 'z') || ('A' ≤ c && c ≤ 'Z') || ('0' ≤ c && c ≤ '9') || c = '_'

def holds (look : Look) (before after : Option Char) : Bool :=
  match look with
  | .textStart => before = none
  | .textStop => after = none
  | .lineStart => before = none || before = some '\n'
  | .lineStop => after = none || after = some '\n'
  | .anyLineStart =>
    before = none || before = some '\n' || (before = some '\r' && after != some '\n')
  | .anyLineStop =>
    after = none || after = some '\r' || (after = some '\n' && before != some '\r')
  | .word place => place.holds (before.any Text.isWordChar) (after.any Text.isWordChar)
  | .asciiWord place => place.holds (before.any isAsciiWordChar) (after.any isAsciiWordChar)

end Look

inductive Expr where
  | empty
  | look (look : Look)
  | oneOf (set : CharSet)
  | seq (first second : Expr)
  | either (first second : Expr)
  /-- At least `least` pieces in a row, and at most `most` where there is a bound. -/
  | repeated (piece : Expr) (least : Nat) (most : Option Nat)
deriving DecidableEq

namespace Expr

/-- Does the expression fit the empty text at a place with these neighbours? -/
def fitsEmpty (before after : Option Char) : Expr → Bool
  | .empty => true
  | .look test => test.holds before after
  | .oneOf _ => false
  | .seq first second => first.fitsEmpty before after && second.fitsEmpty before after
  | .either first second => first.fitsEmpty before after || second.fitsEmpty before after
  | .repeated piece least _ => least = 0 || piece.fitsEmpty before after

def followedBy (first second : Expr) : Expr :=
  if first = .empty then second else .seq first second

/-- What may follow after a character. Pieces that fit the empty text in front of the character
count towards the least number of pieces. -/
def step (before : Option Char) (c : Char) : Expr → List Expr
  | .empty => []
  | .look _ => []
  | .oneOf set => if set.contains c then [.empty] else []
  | .seq first second =>
    (first.step before c).map (·.followedBy second) ++
      if first.fitsEmpty before (some c) then second.step before c else []
  | .either first second => first.step before c ++ second.step before c
  | .repeated piece least most =>
    if most = some 0 then []
    else
      let left := if piece.fitsEmpty before (some c) then 0 else least - 1
      (piece.step before c).map (·.followedBy (.repeated piece left (most.map (· - 1))))

/-- Does a piece of the text fit, that starts at any place or goes on with one of the expressions?
-/
def found (expr : Expr) (before : Option Char) (active : List Expr) : List Char → Bool
  | [] => (expr :: active).any (·.fitsEmpty before none)
  | c :: rest =>
    (expr :: active).any (·.fitsEmpty before (some c)) ||
      expr.found (some c) ((expr :: active).flatMap (·.step before c)).eraseDups rest

def foundIn (expr : Expr) (text : List Char) : Bool :=
  expr.found none [] text

def isWidthless : Expr → Bool
  | .empty => true
  | .look _ => true
  | .oneOf _ => false
  | .seq first second => first.isWidthless && second.isWidthless
  | .either first second => first.isWidthless && second.isWidthless
  | .repeated piece _ most => piece.isWidthless || most = some 0

/-- About how many states a machine for the expression has. -/
def size : Expr → Nat
  | .empty => 1
  | .look _ => 1
  | .oneOf set => set.size
  | .seq first second => first.size + second.size
  | .either first second => first.size + second.size + 1
  | .repeated piece least most =>
    if piece.isWidthless then piece.size + 1 else piece.size * most.getD (least + 1)

end Expr

end SymbolFootprint.Pattern
