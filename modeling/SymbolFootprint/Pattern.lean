import SymbolFootprint.Pattern.Reader

/-!
Patterns for the names of files.

A name fits a pattern if some piece of it does. Which patterns are too large, and how faults are
explained, is up to the engine that matches them (`Pattern.Engine`).
-/

namespace SymbolFootprint

structure Pattern where
  text : String
  expr : Pattern.Expr
deriving DecidableEq

structure InvalidPattern where
  text : String
  /-- Why the text is no pattern. -/
  explanation : String
deriving DecidableEq

namespace InvalidPattern

/-- The message without the explanation. -/
def headline (fault : InvalidPattern) : String :=
  s!"Invalid file name pattern '{fault.text}'"

def message (fault : InvalidPattern) : String :=
  s!"{fault.headline}: {fault.explanation}"

end InvalidPattern

namespace Pattern

/-- How deeply the parts of a pattern may be nested. -/
def depthLimit : Nat := 250

/-- What matches patterns. It takes some patterns for too large, and explains in its own words why a
text is no pattern. -/
structure Engine where
  isTooLarge : Expr → Bool
  explain : String → String

namespace Engine

/-- How many states a machine for a pattern may have. -/
def sizeLimit : Nat := 10 * 1024 * 1024 / 32

def standard : Engine where
  isTooLarge expr := sizeLimit < expr.size
  explain _ := "regex parse error"

def compile (engine : Engine) (text : String) : Except InvalidPattern Pattern :=
  match Reading.readAll? text.toList with
  | none => .error ⟨text, engine.explain text⟩
  | some ⟨expr, depth⟩ =>
    if depth ≤ depthLimit ∧ engine.isTooLarge expr = false then .ok ⟨text, expr⟩
    else .error ⟨text, engine.explain text⟩

end Engine

def ofText (text : String) : Except InvalidPattern Pattern :=
  Engine.standard.compile text

/-- The pattern for the files of compiled assemblies. -/
def standardText : String := "^libaot-.*\\.so$"

def fits (pattern : Pattern) (name : String) : Bool :=
  pattern.expr.foundIn name.toList

end Pattern

end SymbolFootprint
