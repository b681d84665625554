/-!
Computations that may end at a sum that is too large.

With checked sums such a computation gives no value at all (`Run.overflowed`). With the other
arithmetic sums start again at zero, and every computation gives a value.
-/

namespace SymbolFootprint

/-- What becomes of a sum that is too large for a count. -/
inductive Arithmetic where
  /-- The computation ends. -/
  | checked
  /-- The sum starts again at zero. -/
  | wrapping
deriving DecidableEq

/-- What comes of a computation. -/
inductive Run (α : Type) where
  | done (value : α)
  | overflowed
deriving DecidableEq

namespace Run

variable {α : Type}

/-- The values of all computations, if each of them gives one. -/
def all : List (Run α) → Run (List α)
  | [] => .done []
  | .overflowed :: _ => .overflowed
  | .done value :: rest =>
    match all rest with
    | .overflowed => .overflowed
    | .done values => .done (value :: values)

theorem all_eq_done_iff {runs : List (Run α)} {values : List α} :
    all runs = .done values ↔ runs = values.map .done := by
  induction runs generalizing values with
  | nil => cases values <;> simp [all]
  | cons run rest inductionHypothesis =>
    cases run with
    | overflowed => cases values <;> simp [all]
    | done value =>
      cases values with
      | nil => cases result : all rest <;> simp [all, result]
      | cons first others =>
        have later : all rest = .done others ↔ rest = others.map .done := inductionHypothesis
        cases result : all rest <;> simp [all, result, ← later]

theorem all_eq_overflowed_iff {runs : List (Run α)} :
    all runs = .overflowed ↔ .overflowed ∈ runs := by
  induction runs with
  | nil => simp [all]
  | cons run rest inductionHypothesis =>
    cases run with
    | overflowed => simp [all]
    | done value =>
      rw [List.mem_cons, ← inductionHypothesis]
      cases result : all rest <;> simp [all, result]

end Run

end SymbolFootprint
