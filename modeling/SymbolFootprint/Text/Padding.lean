/-!
Filling a text up to a width. A text that is longer than the width stays as it is.
-/

namespace SymbolFootprint.Text

def padRight (width : Nat) (text : List Char) : List Char :=
  text ++ List.replicate (width - text.length) ' '

def padLeft (width : Nat) (text : List Char) : List Char :=
  List.replicate (width - text.length) ' ' ++ text

end SymbolFootprint.Text
