import SymbolFootprint.Proofs.Text.Words
import SymbolFootprint.SizeText

/-!
The ways to write a size, and how their digits are read.

A numeral is a digit, or a numeral and one more digit; leading zeros are digits like others
(`Numeral`). Reading the digits from left to right keeps the number that the numeral so far writes
(`appendDigits_of_numeral`), so the digits that write a size are read as this size
(`appendDigits_eq_ok`). In a listing a size is written in decimal digits, or in hexadecimal ones
behind `0x` (`Size.Written`).
-/

namespace SymbolFootprint

def IsDigit (base : Nat) (c : Char) (digit : Nat) : Prop :=
  digit < base ∧ (c = digit.digitChar ∨ c = digit.digitChar.toUpper)

inductive Numeral (base : Nat) : List Char → Nat → Prop
  | digit {c digit} : IsDigit base c digit → Numeral base [c] digit
  | append {text n c digit} : Numeral base text n → IsDigit base c digit →
      Numeral base (text ++ [c]) (n * base + digit)

namespace IsDigit

variable {base : Nat} {c : Char} {digit : Nat}

theorem of_lt (digit : Nat) (below : digit < base) : IsDigit base digit.digitChar digit :=
  ⟨below, .inl rfl⟩

/-- What holds of the digits below sixteen in both cases holds of every digit. -/
theorem induction {motive : Char → Nat → Prop} (isDigit : IsDigit base c digit)
    (small : base ≤ 16)
    (all : ∀ n < 16, motive n.digitChar n ∧ motive n.digitChar.toUpper n) :
    motive c digit := by
  obtain ⟨below, rfl | rfl⟩ := isDigit
  · exact (all digit (by omega)).1
  · exact (all digit (by omega)).2

theorem digitValue?_eq (isDigit : IsDigit base c digit) (small : base ≤ 16) :
    digitValue? base c = some digit := by
  have hexadecimal : digitValue? 16 c = some digit := by
    apply isDigit.induction (motive := fun c n => digitValue? 16 c = some n) small
    decide
  unfold digitValue? at hexadecimal ⊢
  rw [Option.filter_eq_some_iff] at hexadecimal ⊢
  exact ⟨hexadecimal.1, decide_eq_true isDigit.1⟩

theorem not_blank (isDigit : IsDigit base c digit) (small : base ≤ 16) :
    Text.isBlank c = false := by
  apply isDigit.induction (motive := fun c _ => Text.isBlank c = false) small
  decide

theorem ne_plus (isDigit : IsDigit base c digit) (small : base ≤ 16) : c ≠ '+' := by
  apply isDigit.induction (motive := fun c _ => c ≠ '+') small
  decide

theorem ne_x (isDigit : IsDigit base c digit) (small : base ≤ 16) : c ≠ 'x' ∧ c ≠ 'X' := by
  apply isDigit.induction (motive := fun c _ => c ≠ 'x' ∧ c ≠ 'X') small
  decide

end IsDigit

namespace Numeral

variable {base : Nat} {text : List Char} {n : Nat}

theorem nonempty (numeral : Numeral base text n) : text ≠ [] := by
  cases numeral with
  | digit isDigit => exact List.cons_ne_nil _ _
  | append numeral isDigit => simp

theorem isDigit_of_mem (numeral : Numeral base text n) :
    ∀ c ∈ text, ∃ digit, IsDigit base c digit := by
  induction numeral with
  | digit isDigit =>
    intro c membership
    rw [List.mem_singleton.mp membership]
    exact ⟨_, isDigit⟩
  | append numeral isDigit inductionHypothesis =>
    intro c membership
    rcases List.mem_append.mp membership with inside | last
    · exact inductionHypothesis c inside
    · rw [List.mem_singleton.mp last]
      exact ⟨_, isDigit⟩

theorem isWord (numeral : Numeral base text n) (small : base ≤ 16) : Text.IsWord text where
  nonempty := numeral.nonempty
  noBlank := by
    intro c membership
    obtain ⟨digit, isDigit⟩ := numeral.isDigit_of_mem c membership
    exact isDigit.not_blank small

end Numeral

namespace Size

theorem appendDigits_cons {base : Nat} {c : Char} {digit : Nat} {soFar next : Size}
    (isDigit : IsDigit base c digit) (small : base ≤ 16)
    (number : next.bytes = soFar.bytes * base + digit) (rest : List Char) :
    appendDigits base soFar (c :: rest) = appendDigits base next rest := by
  rw [appendDigits, isDigit.digitValue?_eq small]
  simp only [ofNat?_eq_some_iff.mpr number]

/-- Behind a numeral, the number read so far is the one that the numeral writes. -/
theorem appendDigits_of_numeral {base : Nat} {text : List Char} {n : Nat}
    (numeral : Numeral base text n) (small : base ≤ 16) {size : Size} (same : size.bytes = n)
    (rest : List Char) : appendDigits base 0 (text ++ rest) = appendDigits base size rest := by
  induction numeral generalizing size rest with
  | digit isDigit =>
    apply appendDigits_cons isDigit small
    simpa using same
  | @append text n c digit numeral isDigit inductionHypothesis =>
    have bounded := size.bounded
    have positive : 0 < base := Nat.zero_lt_of_lt isDigit.1
    have front : n ≤ n * base := Nat.le_mul_of_pos_right n positive
    have before : (⟨n, by omega⟩ : Size).bytes = n := rfl
    rw [List.append_assoc, inductionHypothesis before]
    exact appendDigits_cons isDigit small same rest

theorem ofDigits_eq_appendDigits {base : Nat} {text : List Char} {n : Nat}
    (numeral : Numeral base text n) (small : base ≤ 16) :
    ofDigits base text = appendDigits base 0 text := by
  have noPlus : ∀ c ∈ text, c ≠ '+' := by
    intro c membership
    obtain ⟨digit, isDigit⟩ := numeral.isDigit_of_mem c membership
    exact isDigit.ne_plus small
  unfold ofDigits
  split
  · exact absurd rfl numeral.nonempty
  · exact absurd rfl (noPlus '+' (List.mem_cons_self ..))
  · exact absurd rfl (noPlus '+' (List.mem_cons_self ..))
  · rfl

theorem appendDigits_eq_ok {base : Nat} {text : List Char} {size : Size}
    (numeral : Numeral base text size.bytes) (small : base ≤ 16) :
    appendDigits base 0 text = .ok size := by
  have all := appendDigits_of_numeral numeral small rfl []
  rwa [List.append_nil, appendDigits] at all

/-- The texts that write a number in a listing. -/
inductive Written : List Char → Nat → Prop
  | decimal {text n} : Numeral 10 text n → Written text n
  | hexadecimal {x digits n} : x = 'x' ∨ x = 'X' → Numeral 16 digits n →
      Written ('0' :: x :: digits) n

theorem Written.isWord {text : List Char} {n : Nat} (written : Written text n) :
    Text.IsWord text := by
  cases written with
  | decimal numeral => exact numeral.isWord (by decide)
  | @hexadecimal x digits n isX numeral =>
    refine ⟨List.cons_ne_nil _ _, ?_⟩
    have zero : Text.isBlank '0' = false := by decide
    have mark : Text.isBlank x = false := by rcases isX with rfl | rfl <;> decide
    intro c membership
    simp only [List.mem_cons] at membership
    rcases membership with rfl | rfl | inside
    · exact zero
    · exact mark
    · exact (numeral.isWord (by decide)).noBlank c inside

end Size

end SymbolFootprint
