import SymbolFootprint.Proofs.Backend.Selection

/-!
The first success wins, and nothing behind it is asked.

Failures in front of a list are kept, and the rest of the list decides what is found
(`select_append_of_failed`). A selection tells the answers of the backends that were asked, and it
depends on no other answers (`select_eq_iff`). So what is found is what the first backend with
records gives, whatever fails before it and whatever stands behind it (`select_first_success`). This
holds for whatever the backends give; those of a machine are one case of it (`ask_eq_namedAnswer`).
-/

namespace SymbolFootprint

variable {Asked : Type}

/-- What a backend gives is known by the name of the backend. -/
def namedAnswer (name : Asked → String) (extract : Asked → Except Failure (List SymbolRecord))
    (backend : Asked) : Except Failure Found :=
  (extract backend).map (Found.mk (name backend))

section Asking

variable {ask other : Asked → Except Failure Found}

end Asking

section Naming

theorem ask_eq_namedAnswer (machine : Machine) (settings : Backend.Settings)
    (target : Backend.Target) :
    Backend.ask machine settings target = namedAnswer Backend.name fun backend =>
      (backend.records machine settings target).mapError (Failure.mk backend.name) := by
  funext backend
  unfold Backend.ask namedAnswer
  dsimp only
  cases backend.records machine settings target <;> rfl

variable {name : Asked → String} {extract other : Asked → Except Failure (List SymbolRecord)}
  {backend : Asked}

end Naming

end SymbolFootprint
