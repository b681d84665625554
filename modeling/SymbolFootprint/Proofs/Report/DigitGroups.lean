import Mathlib.Data.List.Flatten
import SymbolFootprint.Proofs.Decimal.Digits
import SymbolFootprint.Proofs.Size.Grammar
import SymbolFootprint.Proofs.Text.Split
import SymbolFootprint.Report.Amount

/-!
Sizes in bytes, with their digits in groups.

A comma stands wherever the number of digits behind it is a multiple of three. So what is between
the commas is one group of up to three digits, and behind it groups of just three
(`Decimal.inThrees_grouped`). The digits determine such groups (`Decimal.InThrees.unique`): the text
for a size is the only one in groups of three with the digits of the size
(`Amount.bytesText_inThrees`).
-/

namespace SymbolFootprint

theorem Text.flatten_split (delimiter : Char) (text : List Char) :
    (split delimiter text).flatten = text.filter (· ≠ delimiter) := by
  induction text with
  | nil => rfl
  | cons c rest inductionHypothesis =>
    rw [split]
    split
    · next isDelimiter =>
      rw [List.filter_cons_of_neg (by simpa using isDelimiter), ← inductionHypothesis]
      rfl
    · next differs =>
      obtain ⟨piece, pieces, cut⟩ := List.exists_cons_of_ne_nil (split_ne_nil delimiter rest)
      rw [List.filter_cons_of_pos (by simpa using differs), ← inductionHypothesis, cut]
      rfl

namespace Decimal

/-- The text is written in groups with commas between them: one of up to three characters, and
behind it groups of just three. -/
def InThrees (text : List Char) : Prop :=
  ∃ first others, Text.split ',' text = first :: others ∧
    (1 ≤ first.length ∧ first.length ≤ 3) ∧ ∀ group ∈ others, group.length = 3

namespace InThrees

variable {text other : List Char}

theorem group_ne_nil (inThrees : InThrees text) : [] ∉ Text.split ',' text := by
  obtain ⟨first, others, cut, short, whole⟩ := inThrees
  rw [cut]
  intro empty
  rcases List.mem_cons.mp empty with rfl | inside
  · exact absurd short.1 (by decide)
  · exact absurd (whole [] inside) (by decide)

theorem head?_ne_comma (inThrees : InThrees text) : text.head? ≠ some ',' := by
  intro comma
  obtain ⟨rest, rfl⟩ := List.head?_eq_some_iff.mp comma
  apply inThrees.group_ne_nil
  rw [Text.split, if_pos rfl]
  exact List.mem_cons_self ..

theorem getLast?_ne_comma (inThrees : InThrees text) : text.getLast? ≠ some ',' := by
  intro comma
  obtain ⟨front, rfl⟩ := List.getLast?_eq_some_iff.mp comma
  apply inThrees.group_ne_nil
  rw [Text.split_append_cons]
  exact List.mem_append_right _ (List.mem_singleton_self [])

/-- The digits tell where the commas stand: their number leaves one length for the first group. -/
theorem unique (inThrees : InThrees text) (otherInThrees : InThrees other)
    (same : text.filter (· ≠ ',') = other.filter (· ≠ ',')) : text = other := by
  rw [← Text.flatten_split, ← Text.flatten_split] at same
  rw [← Text.join_split ',' text, ← Text.join_split ',' other]
  obtain ⟨first, others, cut, short, whole⟩ := inThrees
  obtain ⟨otherFirst, otherOthers, otherCut, otherShort, otherWhole⟩ := otherInThrees
  have lengths : others.map List.length = List.replicate others.length 3 :=
    List.map_eq_replicate_iff.mpr whole
  have otherLengths : otherOthers.map List.length = List.replicate otherOthers.length 3 :=
    List.map_eq_replicate_iff.mpr otherWhole
  rw [cut, otherCut] at same ⊢
  have total := congrArg List.length same
  simp only [List.length_flatten, List.map_cons, List.sum_cons, lengths, otherLengths,
    List.sum_replicate_nat] at total
  have sameFirst : first.length = otherFirst.length := by omega
  have sameCount : others.length = otherOthers.length := by omega
  congr 1
  refine List.eq_iff_flatten_eq.mpr ⟨same, ?_⟩
  rw [List.map_cons, List.map_cons, lengths, otherLengths, sameFirst, sameCount]

end InThrees

section Grouped

variable {digits : List Char} (noComma : ',' ∉ digits)

include noComma

theorem filter_grouped : (grouped digits).filter (· ≠ ',') = digits := by
  induction digits using grouped.induct with
  | case1 => rfl
  | case2 digit =>
    rw [List.mem_singleton] at noComma
    rw [grouped, List.filter_cons_of_pos (by simpa using Ne.symm noComma), List.filter_nil]
  | case3 digit next rest multiple inductionHypothesis =>
    rw [List.mem_cons, not_or] at noComma
    rw [grouped, if_pos multiple, List.filter_cons_of_pos (by simpa using Ne.symm noComma.1),
      List.filter_cons_of_neg (by decide), inductionHypothesis noComma.2]
  | case4 digit next rest between inductionHypothesis =>
    rw [List.mem_cons, not_or] at noComma
    rw [grouped, if_neg between, List.filter_cons_of_pos (by simpa using Ne.symm noComma.1),
      inductionHypothesis noComma.2]

/-- The first group takes the digits that are over when the others take three each. -/
theorem split_grouped (nonempty : digits ≠ []) :
    ∃ first others, Text.split ',' (grouped digits) = first :: others ∧
      (1 ≤ first.length ∧ first.length ≤ 3) ∧ (∀ group ∈ others, group.length = 3) ∧
      first.length % 3 = digits.length % 3 := by
  induction digits using grouped.induct with
  | case1 => exact absurd rfl nonempty
  | case2 digit =>
    rw [List.mem_singleton] at noComma
    refine ⟨[digit], [], ?_, ⟨by simp, by simp⟩, List.forall_mem_nil _, rfl⟩
    rw [grouped, Text.split, if_neg (Ne.symm noComma)]
    rfl
  | case3 digit next rest multiple inductionHypothesis =>
    rw [List.mem_cons, not_or] at noComma
    obtain ⟨first, others, cut, short, whole, same⟩ :=
      inductionHypothesis noComma.2 (List.cons_ne_nil _ _)
    have full : first.length = 3 := by omega
    refine ⟨[digit], first :: others, ?_, ⟨by simp, by simp⟩, ?_, ?_⟩
    · rw [grouped, if_pos multiple, Text.split, if_neg (Ne.symm noComma.1), Text.split, if_pos rfl,
        cut]
      rfl
    · exact List.forall_mem_cons.mpr ⟨full, whole⟩
    · rw [List.length_singleton, List.length_cons]
      omega
  | case4 digit next rest between inductionHypothesis =>
    rw [List.mem_cons, not_or] at noComma
    obtain ⟨first, others, cut, short, whole, same⟩ :=
      inductionHypothesis noComma.2 (List.cons_ne_nil _ _)
    refine ⟨digit :: first, others, ?_, ?_, whole, ?_⟩
    · rw [grouped, if_neg between, Text.split, if_neg (Ne.symm noComma.1), cut]
      rfl
    · rw [List.length_cons]
      omega
    · rw [List.length_cons, List.length_cons (a := digit)]
      omega

theorem inThrees_grouped (nonempty : digits ≠ []) : InThrees (grouped digits) := by
  obtain ⟨first, others, cut, short, whole, _⟩ := split_grouped noComma nonempty
  exact ⟨first, others, cut, short, whole⟩

example : grouped "123456".toList = "123,456".toList := by decide

end Grouped

theorem comma_not_mem_digits (n : Nat) : ',' ∉ digits n := by
  intro comma
  obtain ⟨digit, isDigit⟩ := (numeral_digits n).isDigit_of_mem ',' comma
  have differs : ',' ≠ ',' := by
    apply isDigit.induction (motive := fun c _ => c ≠ ',') (by decide)
    decide
  exact differs rfl

theorem head?_digits_eq_zero_iff {n : Nat} : (digits n).head? = some '0' ↔ n = 0 := by
  constructor
  · exact digits_of_zero_head
  · rintro rfl
    rfl

theorem head?_grouped (digits : List Char) : (grouped digits).head? = digits.head? := by
  cases digits with
  | nil => rfl
  | cons digit rest =>
    cases rest with
    | nil => rfl
    | cons next rest =>
      rw [grouped]
      split <;> rfl

end Decimal

namespace Amount

theorem filter_bytesText (size : Size) :
    (bytesText size).filter (· ≠ ',') = Decimal.digits size.bytes :=
  Decimal.filter_grouped (Decimal.comma_not_mem_digits size.bytes)

theorem inThrees_bytesText (size : Size) : Decimal.InThrees (bytesText size) :=
  Decimal.inThrees_grouped (Decimal.comma_not_mem_digits size.bytes)
    (Decimal.digits_ne_nil size.bytes)

/-- Without its commas, what is shown for a size is read as this size. -/
theorem parse_filter_bytesText (size : Size) :
    Size.parse ((bytesText size).filter (· ≠ ',')) = .ok size := by
  rw [filter_bytesText]
  exact Size.parse_of_written (.decimal (Decimal.numeral_digits size.bytes))

/-- A size is shown in its decimal digits, in groups of three, and no other text in such groups has
these digits. Without the commas the text is read as the size, so no two sizes are shown alike. -/
theorem bytesText_inThrees :
    (∀ size : Size,
      (bytesText size).filter (· ≠ ',') = Decimal.digits size.bytes ∧
      Numeral 10 (Decimal.digits size.bytes) size.bytes ∧
      ((bytesText size).head? = some '0' ↔ size.bytes = 0) ∧
      (bytesText size).head? ≠ some ',' ∧ (bytesText size).getLast? ≠ some ',' ∧
      (∃ first others, Text.split ',' (bytesText size) = first :: others ∧
        (1 ≤ first.length ∧ first.length ≤ 3) ∧ ∀ group ∈ others, group.length = 3) ∧
      Size.parse ((bytesText size).filter (· ≠ ',')) = .ok size) ∧
    (∀ (size : Size) (text : List Char), text = bytesText size ↔
      Decimal.InThrees text ∧ text.filter (· ≠ ',') = Decimal.digits size.bytes) ∧
    Function.Injective bytesText := by
  refine ⟨?_, ?_, ?_⟩
  · intro size
    have inThrees := inThrees_bytesText size
    have leading : (bytesText size).head? = some '0' ↔ size.bytes = 0 := by
      rw [bytesText, Decimal.head?_grouped, Decimal.head?_digits_eq_zero_iff]
    exact ⟨filter_bytesText size, Decimal.numeral_digits size.bytes, leading,
      inThrees.head?_ne_comma, inThrees.getLast?_ne_comma, inThrees, parse_filter_bytesText size⟩
  · intro size text
    constructor
    · rintro rfl
      exact ⟨inThrees_bytesText size, filter_bytesText size⟩
    · rintro ⟨inThrees, same⟩
      exact inThrees.unique (inThrees_bytesText size) (same.trans (filter_bytesText size).symm)
  · intro size other same
    have read := parse_filter_bytesText size
    rw [same, parse_filter_bytesText] at read
    exact (Except.ok.inj read).symm

end Amount

end SymbolFootprint
