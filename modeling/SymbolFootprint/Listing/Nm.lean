import SymbolFootprint.Listing.Malformed
import SymbolFootprint.SizeText
import SymbolFootprint.Symbol
import SymbolFootprint.Text.Lines

/-!
Symbol listings of `nm --print-size --size-sort --radix=d`: one symbol a line, with its address, its
size, the letter of its type and its name.
-/

namespace SymbolFootprint.Nm

/-- Reads a line. Blank lines are nothing; the reason for a line that is no entry quotes it without
the blanks around it. -/
def parseLine (line : List Char) : Except Malformed (Option SymbolRecord) :=
  let trimmed := Text.trim line
  match Text.words trimmed with
  | [] => .ok none
  | _ :: size :: letter :: first :: more =>
    match Size.parse size with
    | .error _ => .error ⟨String.ofList trimmed, "invalid size column"⟩
    | .ok size =>
      .ok (some
        ⟨String.ofList (Text.join [' '] (first :: more)), size, .ofNmType (String.ofList letter)⟩)
  | _ => .error ⟨String.ofList trimmed, "expected at least 4 columns"⟩

/-- The record of a line; lines without one are passed over. -/
def record? (line : List Char) : Option SymbolRecord :=
  match parseLine line with
  | .ok record => record
  | .error _ => none

/-- The records of a listing, in the order of its lines. -/
def parse (listing : List Char) : List SymbolRecord :=
  (Text.lines listing).filterMap record?

end SymbolFootprint.Nm
