/-!
Lines of a listing that look like entries and are none.
-/

namespace SymbolFootprint

structure Malformed where
  line : String
  reason : String
deriving DecidableEq

namespace Malformed

def message (fault : Malformed) : String :=
  s!"malformed symbol record '{fault.line}': {fault.reason}"

end Malformed

end SymbolFootprint
