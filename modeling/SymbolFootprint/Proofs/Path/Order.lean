import Mathlib.Data.List.Lex
import Mathlib.Data.Prod.Lex
import Mathlib.Data.String.Basic
import SymbolFootprint.Path

/-!
The order of paths as an order of keys.

Components are in the order of their ranks, and names in the order of their texts
(`PathPart.before_iff`). So paths are in the lexicographic order of these keys (`Path.le_iff`).
This order is linear, and two paths have the same keys exactly if they are the same
(`Path.key_inj`).
-/

namespace SymbolFootprint

namespace PathPart

def label : PathPart → String
  | .name text => text
  | _ => ""

def key (part : PathPart) : ℕ ×ₗ String :=
  toLex (part.rank, part.label)

theorem key_injective : Function.Injective key := by
  intro a b same
  rw [key, key, toLex_inj, Prod.mk.injEq] at same
  obtain ⟨ranks, labels⟩ := same
  cases a <;> cases b <;> simp_all [rank, label]

theorem before_iff {a b : PathPart} : a.before b = true ↔ a.key < b.key := by
  rw [key, key, Prod.Lex.toLex_lt_toLex]
  cases a <;> cases b <;> simp [before, rank, label]

end PathPart

namespace Path

/-- A key in whose order the paths are. -/
def key (path : Path) : List (ℕ ×ₗ String) :=
  path.parts.map PathPart.key

theorem partsLe_iff {first second : List PathPart} :
    partsLe first second = true ↔ first.map PathPart.key ≤ second.map PathPart.key := by
  induction first generalizing second with
  | nil => cases second <;> simp [partsLe, le_iff_lt_or_eq]
  | cons a first inductionHypothesis =>
    cases second with
    | nil => simp [partsLe]
    | cons b second =>
      rw [partsLe, List.map_cons, List.map_cons, le_iff_lt_or_eq, List.cons_lt_cons_iff,
        List.cons.injEq]
      split
      · next same =>
        rw [inductionHypothesis, le_iff_lt_or_eq, same]
        simp
      · next differs =>
        have keys : a.key ≠ b.key := PathPart.key_injective.ne differs
        rw [PathPart.before_iff]
        simp [keys]

theorem le_iff {a b : Path} : a.le b = true ↔ a.key ≤ b.key :=
  partsLe_iff

theorem key_inj {a b : Path} : a.key = b.key ↔ a.same b = true := by
  rw [key, key, PathPart.key_injective.list_map.eq_iff, same, decide_eq_true_eq]

end Path

end SymbolFootprint
