import Mathlib.Algebra.Ring.Nat
import Mathlib.Data.List.Induction
import SymbolFootprint.Proofs.Size.Notation

/-!
Which texts are sizes.

Digits read from left to right are a size exactly if they write one (`ofDigits_eq_ok_iff`), and
digits that write a larger number are refused as too large, however many zeros they begin with
(`ofDigits_of_large`). Decimal digits write at least as much when they are taken for hexadecimal
ones (`Signed.hexadecimal`). So the second try with base sixteen never gives a size to a text of
decimal digits, and the texts that are sizes are those of the grammar (`parse_exact`).
-/

namespace SymbolFootprint

/-- A numeral, maybe behind a plus sign. -/
inductive Signed (base : Nat) : List Char → Nat → Prop
  | plain {text n} : Numeral base text n → Signed base text n
  | plus {text n} : Numeral base text n → Signed base ('+' :: text) n

/-- The texts that are read as sizes. Without a mark, digits are hexadecimal if one of them is a
letter. -/
inductive Size.Accepted : List Char → Nat → Prop
  | marked {x text n} : x = 'x' ∨ x = 'X' → Signed 16 text n → Accepted ('0' :: x :: text) n
  | decimal {text n} : Signed 10 text n → Accepted text n
  | lettered {text n} : Signed 16 text n → (∃ c ∈ text, c.isAlpha = true) → Accepted text n

namespace IsDigit

variable {base : Nat} {c : Char} {digit : Nat}

theorem of_digitValue? (read : digitValue? base c = some digit) (small : base ≤ 16) :
    IsDigit base c digit := by
  obtain ⟨value, below⟩ := Option.filter_eq_some_iff.mp read
  have isBelow : digit < base := of_decide_eq_true below
  have hexadecimal : digitValue? 16 c = some digit :=
    Option.filter_eq_some_iff.mpr ⟨value, decide_eq_true (by omega)⟩
  have ascii : c.toNat < 128 := by
    have below (last : Char) (high : c ≤ last) : c.toNat ≤ last.toNat := high
    split at value
    · next range => exact (below '9' range.2).trans_lt (by decide)
    · split at value
      · next range => exact (below 'f' range.2).trans_lt (by decide)
      · split at value
        · next range => exact (below 'F' range.2).trans_lt (by decide)
        · cases value
  have all : ∀ n < 128, ∀ digit ∈ digitValue? 16 (Char.ofNat n),
      Char.ofNat n = digit.digitChar ∨ Char.ofNat n = digit.digitChar.toUpper := by
    decide
  have written := all c.toNat ascii digit
  rw [Char.ofNat_toNat] at written
  exact ⟨isBelow, written hexadecimal⟩

theorem hexadecimal (isDigit : IsDigit 10 c digit) : IsDigit 16 c digit :=
  ⟨isDigit.1.trans (by decide), isDigit.2⟩

theorem not_isAlpha (isDigit : IsDigit 10 c digit) : c.isAlpha = false := by
  have all : ∀ n < 10, n.digitChar.isAlpha = false ∧ n.digitChar.toUpper.isAlpha = false := by
    decide
  obtain ⟨below, rfl | rfl⟩ := isDigit
  · exact (all digit below).1
  · exact (all digit below).2

theorem decimal (isDigit : IsDigit 16 c digit) (noLetter : c.isAlpha = false) :
    IsDigit 10 c digit := by
  refine ⟨?_, isDigit.2⟩
  revert noLetter
  apply isDigit.induction (motive := fun c n => c.isAlpha = false → n < 10) (by decide)
  decide

end IsDigit

namespace Numeral

variable {text : List Char} {n : Nat}

/-- Decimal digits write at least as much when they are taken for hexadecimal ones. -/
theorem hexadecimal (numeral : Numeral 10 text n) : ∃ m, n ≤ m ∧ Numeral 16 text m := by
  induction numeral with
  | digit isDigit => exact ⟨_, le_rfl, .digit isDigit.hexadecimal⟩
  | @append text n c digit _ isDigit inductionHypothesis =>
    obtain ⟨m, atMost, numeral⟩ := inductionHypothesis
    exact ⟨m * 16 + digit, by omega, .append numeral isDigit.hexadecimal⟩

/-- Hexadecimal digits without letters write at most as much when they are taken for decimal ones.
-/
theorem decimal (numeral : Numeral 16 text n) (noLetter : ∀ c ∈ text, c.isAlpha = false) :
    ∃ m, m ≤ n ∧ Numeral 10 text m := by
  induction numeral with
  | digit isDigit =>
    exact ⟨_, le_rfl, .digit (isDigit.decimal (noLetter _ (List.mem_cons_self ..)))⟩
  | @append text n c digit _ isDigit inductionHypothesis =>
    obtain ⟨m, atMost, numeral⟩ := inductionHypothesis fun d inside =>
      noLetter d (List.mem_append_left _ inside)
    have last : c.isAlpha = false := noLetter c (List.mem_append_right _ (List.mem_cons_self ..))
    exact ⟨m * 10 + digit, by omega, .append numeral (isDigit.decimal last)⟩

end Numeral

namespace Signed

variable {base : Nat} {text : List Char} {n : Nat}

theorem hexadecimal (signed : Signed 10 text n) : ∃ m, n ≤ m ∧ Signed 16 text m := by
  cases signed with
  | plain numeral =>
    obtain ⟨m, atMost, numeral⟩ := numeral.hexadecimal
    exact ⟨m, atMost, .plain numeral⟩
  | plus numeral =>
    obtain ⟨m, atMost, numeral⟩ := numeral.hexadecimal
    exact ⟨m, atMost, .plus numeral⟩

theorem decimal (signed : Signed 16 text n) (noLetter : ∀ c ∈ text, c.isAlpha = false) :
    ∃ m, m ≤ n ∧ Signed 10 text m := by
  cases signed with
  | plain numeral =>
    obtain ⟨m, atMost, numeral⟩ := numeral.decimal noLetter
    exact ⟨m, atMost, .plain numeral⟩
  | plus numeral =>
    obtain ⟨m, atMost, numeral⟩ := numeral.decimal fun c inside =>
      noLetter c (List.mem_cons_of_mem _ inside)
    exact ⟨m, atMost, .plus numeral⟩

theorem isDigit_of_singleton {c : Char} (signed : Signed base [c] n) : IsDigit base c n := by
  generalize same : [c] = text at signed
  cases signed with
  | plain numeral =>
    cases numeral with
    | digit isDigit =>
      cases same
      exact isDigit
    | append numeral isDigit =>
      have front := List.append_eq_singleton_iff.mp same.symm
      simp [numeral.nonempty] at front
  | plus numeral =>
    cases same
    exact absurd rfl numeral.nonempty

theorem eq_plus_or_isDigit (signed : Signed base text n) :
    ∀ c ∈ text, c = '+' ∨ ∃ digit, IsDigit base c digit := by
  intro c membership
  cases signed with
  | plain numeral => exact .inr (numeral.isDigit_of_mem c membership)
  | plus numeral =>
    rcases List.mem_cons.mp membership with isPlus | inside
    · exact .inl isPlus
    · exact .inr (numeral.isDigit_of_mem c inside)

theorem not_isAlpha (signed : Signed 10 text n) : ∀ c ∈ text, c.isAlpha = false := by
  intro c membership
  rcases signed.eq_plus_or_isDigit c membership with rfl | ⟨digit, isDigit⟩
  · decide
  · exact isDigit.not_isAlpha

theorem ne_x (signed : Signed base text n) (small : base ≤ 16) :
    ∀ c ∈ text, c ≠ 'x' ∧ c ≠ 'X' := by
  intro c membership
  rcases signed.eq_plus_or_isDigit c membership with rfl | ⟨digit, isDigit⟩
  · decide
  · exact isDigit.ne_x small

end Signed

namespace Size

section Digits

variable {base : Nat}

theorem appendDigits_append (base : Nat) (soFar : Size) (front back : List Char) :
    appendDigits base soFar (front ++ back) =
      (appendDigits base soFar front).bind fun next => appendDigits base next back := by
  induction front generalizing soFar with
  | nil => rfl
  | cons c front inductionHypothesis =>
    rw [List.cons_append, appendDigits, appendDigits]
    split
    · rfl
    · split
      · rfl
      · exact inductionHypothesis _

theorem numeral_of_appendDigits {text : List Char} {size : Size} (small : base ≤ 16)
    (nonempty : text ≠ []) (read : appendDigits base 0 text = .ok size) :
    Numeral base text size.bytes := by
  induction text using List.reverseRecOn generalizing size with
  | nil => exact absurd rfl nonempty
  | append_singleton front c inductionHypothesis =>
    rw [appendDigits_append] at read
    cases before : appendDigits base 0 front with
    | error fault =>
      rw [before] at read
      cases read
    | ok next =>
      rw [before, Except.bind, appendDigits] at read
      split at read
      · cases read
      · next digit value =>
        have isDigit := IsDigit.of_digitValue? value small
        split at read
        · cases read
        · next after number =>
          cases read
          rw [ofNat?_eq_some_iff.mp number]
          cases front with
          | nil =>
            cases before
            simpa using Numeral.digit isDigit
          | cons d front =>
            exact .append (inductionHypothesis (List.cons_ne_nil d front) before) isDigit

theorem appendDigits_of_large {text : List Char} {n : Nat} (numeral : Numeral base text n)
    (small : base ≤ 16) (large : 2 ^ 64 ≤ n) : appendDigits base 0 text = .error .tooLarge := by
  induction numeral with
  | @digit c digit isDigit =>
    have below := isDigit.1
    omega
  | @append text n c digit numeral isDigit inductionHypothesis =>
    by_cases before : n < 2 ^ 64
    · have none : ofNat? (n * base + digit) = none := dif_neg (Nat.not_lt.mpr large)
      have soFar : (⟨n, before⟩ : Size).bytes = n := rfl
      rw [appendDigits_of_numeral numeral small soFar, appendDigits, isDigit.digitValue?_eq small]
      simp only [none]
    · rw [appendDigits_append, inductionHypothesis (Nat.not_lt.mp before)]
      rfl

theorem ofDigits_plus {text : List Char} (nonempty : text ≠ []) :
    ofDigits base ('+' :: text) = appendDigits base 0 text := by
  cases text with
  | nil => exact absurd rfl nonempty
  | cons c text => rfl

theorem exists_numeral_of_signed {text : List Char} {n : Nat} (signed : Signed base text n)
    (small : base ≤ 16) :
    ∃ digits, Numeral base digits n ∧ ofDigits base text = appendDigits base 0 digits := by
  cases signed with
  | plain numeral => exact ⟨text, numeral, ofDigits_eq_appendDigits numeral small⟩
  | plus numeral => exact ⟨_, numeral, ofDigits_plus numeral.nonempty⟩

theorem ofDigits_eq_ok_iff {text : List Char} {size : Size} (small : base ≤ 16) :
    ofDigits base text = .ok size ↔ Signed base text size.bytes := by
  constructor
  · intro read
    unfold ofDigits at read
    split at read
    · cases read
    · cases read
    · next digits noDigit =>
      exact .plus (numeral_of_appendDigits small (fun empty => noDigit (by rw [empty])) read)
    · next nonempty _ _ => exact .plain (numeral_of_appendDigits small nonempty read)
  · intro signed
    obtain ⟨digits, numeral, same⟩ := exists_numeral_of_signed signed small
    rw [same, appendDigits_eq_ok numeral small]

theorem ofDigits_of_large {text : List Char} {n : Nat} (signed : Signed base text n)
    (small : base ≤ 16) (large : 2 ^ 64 ≤ n) : ofDigits base text = .error .tooLarge := by
  obtain ⟨digits, numeral, same⟩ := exists_numeral_of_signed signed small
  rw [same, appendDigits_of_large numeral small large]

end Digits

section Texts

variable {text : List Char}

theorem parse_of_marked {x : Char} {digits : List Char} (isMark : x = 'x' ∨ x = 'X')
    (same : Text.trim text = '0' :: x :: digits) :
    parse text = (ofDigits 16 digits).mapError (.hexadecimal (String.ofList (Text.trim text))) := by
  rw [parse, same]
  rcases isMark with rfl | rfl <;> rfl

/-- Without a mark, decimal digits come first. -/
theorem parse_of_unmarked
    (unmarked : ∀ x digits, x = 'x' ∨ x = 'X' → Text.trim text ≠ '0' :: x :: digits) :
    parse text =
      match ofDigits 10 (Text.trim text) with
      | .ok size => .ok size
      | .error _ =>
        (ofDigits 16 (Text.trim text)).mapError (.number (String.ofList (Text.trim text))) := by
  unfold parse
  dsimp only
  split
  · next digits same => exact absurd same (unmarked 'x' digits (.inl rfl))
  · next digits same => exact absurd same (unmarked 'X' digits (.inr rfl))
  · rfl

theorem unmarked_of_signed {base n : Nat} (signed : Signed base text n) (small : base ≤ 16) :
    ∀ x digits, x = 'x' ∨ x = 'X' → text ≠ '0' :: x :: digits := by
  rintro x digits isMark rfl
  have differs := signed.ne_x small x (by simp)
  rcases isMark with rfl | rfl
  · exact differs.1 rfl
  · exact differs.2 rfl

theorem parse_of_accepted {size : Size} (accepted : Accepted (Text.trim text) size.bytes) :
    parse text = .ok size := by
  generalize same : Text.trim text = trimmed at accepted
  cases accepted with
  | marked isMark signed =>
    rw [parse_of_marked isMark same, (ofDigits_eq_ok_iff (by decide)).mpr signed]
    rfl
  | decimal signed =>
    subst same
    rw [parse_of_unmarked (unmarked_of_signed signed (by decide)),
      (ofDigits_eq_ok_iff (by decide)).mpr signed]
  | lettered signed letter =>
    subst same
    rw [parse_of_unmarked (unmarked_of_signed signed (by decide))]
    split
    · next other read =>
      obtain ⟨c, membership, isLetter⟩ := letter
      have noLetter := ((ofDigits_eq_ok_iff (by decide)).mp read).not_isAlpha c membership
      rw [noLetter] at isLetter
      cases isLetter
    · rw [(ofDigits_eq_ok_iff (by decide)).mpr signed]
      rfl

theorem accepted_of_parse {size : Size} (read : parse text = .ok size) :
    Accepted (Text.trim text) size.bytes := by
  by_cases marked : ∃ x digits, (x = 'x' ∨ x = 'X') ∧ Text.trim text = '0' :: x :: digits
  · obtain ⟨x, digits, isMark, same⟩ := marked
    rw [parse_of_marked isMark same] at read
    cases after : ofDigits 16 digits with
    | error fault =>
      rw [after] at read
      cases read
    | ok other =>
      rw [after] at read
      cases read
      rw [same]
      exact .marked isMark ((ofDigits_eq_ok_iff (by decide)).mp after)
  · have unmarked : ∀ x digits, x = 'x' ∨ x = 'X' → Text.trim text ≠ '0' :: x :: digits :=
      fun x digits isMark same => marked ⟨x, digits, isMark, same⟩
    rw [parse_of_unmarked unmarked] at read
    split at read
    · next decimal =>
      cases read
      exact .decimal ((ofDigits_eq_ok_iff (by decide)).mp decimal)
    · next fault failed =>
      cases second : ofDigits 16 (Text.trim text) with
      | error fault =>
        rw [second] at read
        cases read
      | ok other =>
        rw [second] at read
        cases read
        have signed := (ofDigits_eq_ok_iff (by decide)).mp second
        by_cases letter : ∃ c ∈ Text.trim text, c.isAlpha = true
        · exact .lettered signed letter
        · have noLetter : ∀ c ∈ Text.trim text, c.isAlpha = false := by
            simpa using letter
          obtain ⟨m, atMost, decimal⟩ := signed.decimal noLetter
          have bounded := size.bounded
          have first : ofDigits 10 (Text.trim text) = .ok ⟨m, by omega⟩ :=
            (ofDigits_eq_ok_iff (by decide)).mpr decimal
          cases first.symm.trans failed

/-- A text is read as a size exactly if the grammar writes this number and it is small enough.
Decimal digits for a larger number are refused as too large: they are not taken for hexadecimal
ones, whatever zeros stand in front. -/
theorem parse_exact (text : List Char) :
    (∀ n, (∃ size : Size, size.bytes = n ∧ parse text = .ok size) ↔
      n < 2 ^ 64 ∧ Accepted (Text.trim text) n) ∧
    ∀ n, Signed 10 (Text.trim text) n → 2 ^ 64 ≤ n →
      parse text = .error (.number (String.ofList (Text.trim text)) .tooLarge) := by
  constructor
  · intro n
    constructor
    · rintro ⟨size, rfl, read⟩
      exact ⟨size.bounded, accepted_of_parse read⟩
    · rintro ⟨bounded, accepted⟩
      exact ⟨⟨n, bounded⟩, rfl, parse_of_accepted accepted⟩
  · intro n signed large
    obtain ⟨m, atLeast, hexadecimal⟩ := signed.hexadecimal
    rw [parse_of_unmarked (unmarked_of_signed signed (by decide)),
      ofDigits_of_large signed (by decide) large,
      ofDigits_of_large hexadecimal (by decide) (large.trans atLeast)]
    rfl

theorem parse_eq_ok_iff {word : List Char} (isWord : Text.IsWord word) {size : Size} :
    parse word = .ok size ↔ Accepted word size.bytes := by
  have trimmed := Text.trim_of_isWord isWord
  constructor
  · intro read
    have accepted := accepted_of_parse read
    rwa [trimmed] at accepted
  · intro accepted
    apply parse_of_accepted
    rwa [trimmed]

theorem Written.accepted {n : Nat} (written : Written text n) : Accepted text n := by
  cases written with
  | decimal numeral => exact .decimal (.plain numeral)
  | hexadecimal isMark numeral => exact .marked isMark (.plain numeral)

/-- A size that is written in a listing is read back. -/
theorem parse_of_written {size : Size} (written : Written text size.bytes) :
    parse text = .ok size :=
  (parse_eq_ok_iff written.isWord).mpr written.accepted

theorem accepted_singleton_iff {c : Char} {n : Nat} : Accepted [c] n ↔ IsDigit 16 c n := by
  constructor
  · intro accepted
    cases accepted with
    | decimal signed => exact signed.isDigit_of_singleton.hexadecimal
    | lettered signed _ => exact signed.isDigit_of_singleton
  · intro isDigit
    by_cases letter : c.isAlpha = true
    · exact .lettered (.plain (.digit isDigit)) ⟨c, List.mem_cons_self .., letter⟩
    · exact .decimal (.plain (.digit (isDigit.decimal (Bool.eq_false_iff.mpr letter))))

theorem parse_exact_bounds :
    let tooLarge := " 018446744073709551616".toList
    let lettered := "+0fF".toList
    Signed 10 (Text.trim tooLarge) (2 ^ 64) ∧
    parse tooLarge = .error (.number "018446744073709551616" .tooLarge) ∧
    255 < 2 ^ 64 ∧ Accepted (Text.trim lettered) 255 ∧
    ∃ size : Size, size.bytes = 255 ∧ parse lettered = .ok size := by
  intro tooLarge lettered
  have trimmed : Text.trim tooLarge = "01844674407370955161".toList ++ ['6'] := by decide
  have read : appendDigits 10 0 "01844674407370955161".toList =
      .ok (.clamp 1844674407370955161) := by
    decide
  have front : Numeral 10 "01844674407370955161".toList 1844674407370955161 :=
    numeral_of_appendDigits (by decide) (by decide) read
  have signed : Signed 10 (Text.trim tooLarge) (2 ^ 64) := by
    rw [trimmed]
    exact .plain (front.append (.of_lt 6 (by decide)))
  have digits : ofDigits 16 (Text.trim lettered) = .ok (.clamp 255) := by decide
  have accepted : Accepted (Text.trim lettered) 255 :=
    .lettered ((ofDigits_eq_ok_iff (by decide)).mp digits) ⟨'f', by decide, by decide⟩
  have refused := (parse_exact tooLarge).2 (2 ^ 64) signed le_rfl
  rw [trimmed] at refused
  exact ⟨signed, refused, by decide, accepted,
    ((parse_exact lettered).1 255).mpr ⟨by decide, accepted⟩⟩

end Texts

end Size

end SymbolFootprint
