import SymbolFootprint.Backend

/-!
What asking backends one after the other comes to.

Either all of them fail, or there is a first one that gives records; in both cases the failures
before it are kept in order (`select_cases`). So nothing is found exactly if every backend fails
(`select_eq_none_iff`), and one backend that gives records is enough for a first one to be found
(`select_of_mem`).
-/

namespace SymbolFootprint

variable {Asked : Type} {ask : Asked → Except Failure Found}

theorem select_cons_of_ok {backend : Asked} {found : Found} (success : ask backend = .ok found)
    (rest : List Asked) : select ask (backend :: rest) = ⟨[], some found⟩ := by
  rw [select, success]

theorem select_cons_of_error {backend : Asked} {failure : Failure}
    (failed : ask backend = .error failure) (rest : List Asked) :
    select ask (backend :: rest) =
      ⟨failure :: (select ask rest).failures, (select ask rest).found⟩ := by
  rw [select, failed]

/-- Either every backend fails, or a first one gives records; what failed before is kept. -/
theorem select_cases (ask : Asked → Except Failure Found) (order : List Asked) :
    (∃ failures : List Failure, order.map ask = failures.map .error ∧
      select ask order = ⟨failures, none⟩) ∨
    ∃ (front : List Asked) (backend : Asked) (rest : List Asked) (failures : List Failure)
      (found : Found), order = front ++ backend :: rest ∧ front.map ask = failures.map .error ∧
        ask backend = .ok found ∧ select ask order = ⟨failures, some found⟩ := by
  induction order with
  | nil => exact .inl ⟨[], rfl, rfl⟩
  | cons backend order inductionHypothesis =>
    cases answer : ask backend with
    | ok found =>
      exact .inr ⟨[], backend, order, [], found, rfl, rfl, answer, select_cons_of_ok answer order⟩
    | error failure =>
      have step := select_cons_of_error answer order
      rcases inductionHypothesis with ⟨failures, failed, result⟩ |
        ⟨front, later, rest, failures, found, rfl, failed, success, result⟩
      · refine .inl ⟨failure :: failures, ?_, ?_⟩
        · rw [List.map_cons, List.map_cons, answer, failed]
        · rw [step, result]
      · refine .inr ⟨backend :: front, later, rest, failure :: failures, found, rfl, ?_,
          success, ?_⟩
        · rw [List.map_cons, List.map_cons, answer, failed]
        · rw [step, result]

theorem ok_not_mem_errors {found : Found} (failures : List Failure) :
    (.ok found : Except Failure Found) ∉ failures.map .error := by
  intro membership
  obtain ⟨failure, _, same⟩ := List.mem_map.mp membership
  cases same

theorem select_eq_none_iff {order : List Asked} {failures : List Failure} :
    select ask order = ⟨failures, none⟩ ↔ order.map ask = failures.map .error := by
  rcases select_cases ask order with ⟨kept, failed, result⟩ |
    ⟨front, backend, rest, kept, found, rfl, failed, success, result⟩
  · rw [result, failed, Selection.mk.injEq,
      List.map_inj_right fun _ _ same => Except.error.inj same]
    exact and_iff_left rfl
  · constructor
    · intro nothing
      cases result.symm.trans nothing
    · intro allFailed
      have membership : ask backend ∈ (front ++ backend :: rest).map ask :=
        List.mem_map_of_mem (List.mem_append_right front (List.mem_cons_self ..))
      rw [allFailed, success] at membership
      exact absurd membership (ok_not_mem_errors failures)

theorem select_of_mem {order : List Asked} {backend : Asked} {records : Found}
    (membership : backend ∈ order) (success : ask backend = .ok records) :
    ∃ (front : List Asked) (first : Asked) (rest : List Asked) (failures : List Failure)
      (found : Found), order = front ++ first :: rest ∧ front.map ask = failures.map .error ∧
        ask first = .ok found ∧ select ask order = ⟨failures, some found⟩ := by
  rcases select_cases ask order with ⟨failures, failed, _⟩ | found
  · have answered := List.mem_map_of_mem (f := ask) membership
    rw [failed, success] at answered
    exact absurd answered (ok_not_mem_errors failures)
  · exact found

end SymbolFootprint
