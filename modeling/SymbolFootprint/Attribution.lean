/-!
Where a symbol belongs: the namespace (its scope), the type and the member that its identifier
names.
-/

namespace SymbolFootprint

structure Attribution where
  scope : String
  type : String
  member : String
deriving DecidableEq

namespace Attribution

/-- Stands for the empty namespace in the keys of types. -/
def noScope : String := "(no namespace)"

/-- The attribution of an identifier that goes whole into a bucket. -/
def bucket (name identifier : String) : Attribution :=
  ⟨name, name, identifier⟩

def shownScope (name : String) : String :=
  if name = "" then noScope else name

def typeKey (attribution : Attribution) : String :=
  shownScope attribution.scope ++ "." ++ attribution.type

end Attribution

end SymbolFootprint
