import Mathlib.Data.List.Basic
import SymbolFootprint.Decimal.Notation
import SymbolFootprint.Proofs.Size.Notation

/-!
The digits of a number.

The decimal digits of a number are a numeral that writes it (`numeral_digits`), and only zero is
written with a zero in front (`digits_of_zero_head`). A numeral writes one number
(`Numeral.unique`), so what is written can be read back.
-/

namespace SymbolFootprint

theorem IsDigit.unique {base first second : Nat} {c : Char} (isDigit : IsDigit base c first)
    (other : IsDigit base c second) (small : base ≤ 16) : first = second := by
  have value := isDigit.digitValue?_eq small
  rw [other.digitValue?_eq small] at value
  exact (Option.some.inj value).symm

theorem Numeral.unique {base first second : Nat} {text : List Char}
    (numeral : Numeral base text first) (other : Numeral base text second) (small : base ≤ 16) :
    first = second := by
  induction numeral generalizing second with
  | @digit c digit isDigit =>
    generalize same : [c] = text at other
    cases other with
    | digit otherDigit =>
      cases same
      exact isDigit.unique otherDigit small
    | append front _ =>
      have parts := List.append_eq_singleton_iff.mp same.symm
      simp [front.nonempty] at parts
  | @append text n c digit front isDigit inductionHypothesis =>
    generalize same : text ++ [c] = whole at other
    cases other with
    | digit _ =>
      have parts := List.append_eq_singleton_iff.mp same
      simp [front.nonempty] at parts
    | append otherFront otherDigit =>
      obtain ⟨rfl, last⟩ := List.append_inj' same rfl
      rw [List.singleton_inj] at last
      subst last
      rw [inductionHypothesis otherFront, isDigit.unique otherDigit small]

namespace Decimal

theorem digits_of_lt {n : Nat} (small : n < 10) : digits n = [n.digitChar] :=
  Nat.toDigits_of_lt_base small

theorem digits_of_le {n : Nat} (large : 10 ≤ n) :
    digits n = digits (n / 10) ++ [(n % 10).digitChar] :=
  Nat.toDigits_of_base_le (by decide) large

theorem digits_ne_nil (n : Nat) : digits n ≠ [] :=
  Nat.toDigits_ne_nil

theorem numeral_digits (n : Nat) : Numeral 10 (digits n) n := by
  induction n using Nat.strongRecOn with
  | ind n inductionHypothesis =>
    rcases Nat.lt_or_ge n 10 with small | large
    · rw [digits_of_lt small]
      exact .digit (.of_lt n small)
    · rw [digits_of_le large]
      have front := inductionHypothesis (n / 10) (by omega)
      have whole := Numeral.append front (.of_lt (n % 10) (Nat.mod_lt n (by decide)))
      rwa [Nat.div_add_mod'] at whole

theorem digits_of_zero_head {n : Nat} (zero : (digits n).head? = some '0') : n = 0 := by
  induction n using Nat.strongRecOn with
  | ind n inductionHypothesis =>
    rcases Nat.lt_or_ge n 10 with small | large
    · rw [digits_of_lt small] at zero
      have all : ∀ n < 10, some n.digitChar = some '0' → n = 0 := by decide
      exact all n small zero
    · rw [digits_of_le large, List.head?_append_of_ne_nil _ (digits_ne_nil _)] at zero
      have front := inductionHypothesis (n / 10) (by omega) zero
      omega

end Decimal

end SymbolFootprint
