import SymbolFootprint.Text.Category

/-!
Texts in quotes, in which no character is invisible or changes the look of another one.
-/

namespace SymbolFootprint.Text.Quoted

/-- Can the character be seen? Among the spaces only the plain one counts. -/
def isVisible (c : Char) : Bool :=
  match Category.of? c with
  | none | some .control | some .format | some .privateUse | some .lineSeparator
  | some .paragraphSeparator => false
  | some .spaceSeparator => c = ' '
  | some _ => true

def codePoint (c : Char) : List Char :=
  "\\u\x7b".toList ++ Nat.toDigits 16 c.toNat ++ "\x7d".toList

def escape (c : Char) : List Char :=
  if c = '\x00' then "\\0".toList
  else if c = '\t' then "\\t".toList
  else if c = '\n' then "\\n".toList
  else if c = '\r' then "\\r".toList
  else if c = '"' ∨ c = '\\' then ['\\', c]
  else if isVisible c && !isExtending c then [c]
  else codePoint c

def quote (text : List Char) : List Char :=
  '"' :: text.flatMap escape ++ ['"']

end SymbolFootprint.Text.Quoted
