import SymbolFootprint.Text.Split

/-!
The lines of a text.
-/

namespace SymbolFootprint.Text

/-- The lines of a text. A line ends at a line feed, together with one carriage return right before
it; a line feed at the very end opens no further line. -/
def lines : List Char → List (List Char)
  | [] => []
  | '\n' :: rest => [] :: lines rest
  | '\r' :: '\n' :: rest => [] :: lines rest
  | c :: rest => prepend c (lines rest)

end SymbolFootprint.Text
