import Mathlib.Data.List.TakeWhile
import SymbolFootprint.Text.Blank

/-!
Texts that are laid out in words.

`Spaced words text` says that the text has the words in order, with blanks between them and as many
blanks as it likes around them. Such a text is taken apart into these words (`words_of_spaced`), and
trimming changes nothing about that (`words_trim`).
-/

namespace SymbolFootprint.Text

structure IsWord (word : List Char) : Prop where
  nonempty : word ≠ []
  noBlank : ∀ c ∈ word, isBlank c = false

instance (word : List Char) : Decidable (IsWord word) :=
  decidable_of_iff (word ≠ [] ∧ word.all (!isBlank ·) = true)
    ⟨fun ⟨nonempty, solid⟩ => ⟨nonempty, by simpa using solid⟩,
      fun isWord => ⟨isWord.nonempty, by simpa using isWord.noBlank⟩⟩

def IsGap (gap : List Char) : Prop :=
  ∀ c ∈ gap, isBlank c = true ∧ c ≠ '\n'

instance (gap : List Char) : Decidable (IsGap gap) :=
  List.decidableBAll (fun c => isBlank c = true ∧ c ≠ '\n') gap

inductive Spaced : List (List Char) → List Char → Prop
  | nil {gap} : IsGap gap → Spaced [] gap
  | cons {gap word words rest} : IsGap gap → IsWord word →
      (∀ c ∈ rest.head?, isBlank c = true) → Spaced words rest →
      Spaced (word :: words) (gap ++ word ++ rest)

section Words

theorem words_cons_of_blank {c : Char} (blank : isBlank c = true) (rest : List Char) :
    words (c :: rest) = words rest := by
  cases rest with
  | nil => simp [words, blank]
  | cons d rest => rw [words, if_pos blank]

theorem words_gap_append {gap : List Char} (blank : ∀ c ∈ gap, isBlank c = true)
    (rest : List Char) : words (gap ++ rest) = words rest := by
  induction gap with
  | nil => rfl
  | cons c gap inductionHypothesis =>
    rw [List.cons_append, words_cons_of_blank (blank c (List.mem_cons_self ..))]
    exact inductionHypothesis fun d inside => blank d (List.mem_cons_of_mem _ inside)

/-- A word ends at the end of the text or where a blank stands. -/
theorem words_word_append {word : List Char} (isWord : IsWord word) {rest : List Char}
    (ends : ∀ c ∈ rest.head?, isBlank c = true) : words (word ++ rest) = word :: words rest := by
  obtain ⟨nonempty, noBlank⟩ := isWord
  induction word with
  | nil => exact absurd rfl nonempty
  | cons c word inductionHypothesis =>
    have own : isBlank c = false := noBlank c (List.mem_cons_self ..)
    cases word with
    | nil =>
      cases rest with
      | nil => simp [words, own]
      | cons d rest =>
        have stop : isBlank d = true := ends d rfl
        simp [words, own, stop]
    | cons d word =>
      have next : isBlank d = false := noBlank d (by simp)
      have later := inductionHypothesis (List.cons_ne_nil _ _) fun e inside =>
        noBlank e (List.mem_cons_of_mem _ inside)
      rw [List.cons_append] at later
      rw [List.cons_append, List.cons_append, words, own, next, later]
      rfl

/-- A text that is laid out in words has these words. -/
theorem words_of_spaced {pieces : List (List Char)} {text : List Char}
    (spaced : Spaced pieces text) : words text = pieces := by
  induction spaced with
  | @nil gap isGap =>
    have none := words_gap_append (fun c inside => (isGap c inside).1) []
    rwa [List.append_nil] at none
  | @cons gap word pieces rest isGap isWord ends spaced inductionHypothesis =>
    rw [List.append_assoc, words_gap_append fun c inside => (isGap c inside).1,
      words_word_append isWord ends, inductionHypothesis]

theorem Spaced.gap_append {pieces : List (List Char)} {gap text : List Char} (isGap : IsGap gap)
    (spaced : Spaced pieces text) : Spaced pieces (gap ++ text) := by
  have joined : ∀ {other}, IsGap other → IsGap (gap ++ other) := by
    intro other isOther c membership
    rcases List.mem_append.mp membership with inside | inside
    · exact isGap c inside
    · exact isOther c inside
  cases spaced with
  | nil isOther => exact .nil (joined isOther)
  | cons isOther isWord ends spaced =>
    rw [List.append_assoc, ← List.append_assoc gap, ← List.append_assoc]
    exact .cons (joined isOther) isWord ends spaced

theorem Spaced.letter_cons {pieces : List (List Char)} {c d : Char} {rest : List Char}
    (letter : isBlank c = false) (next : isBlank d = false)
    (spaced : Spaced pieces (d :: rest)) : Spaced (prepend c pieces) (c :: d :: rest) := by
  generalize same : d :: rest = text at spaced
  cases spaced with
  | nil isGap =>
    have blank := (isGap d (same ▸ List.mem_cons_self ..)).1
    exact absurd blank (by simp [next])
  | @cons gap word pieces after isGap isWord ends spaced =>
    cases gap with
    | cons e gap =>
      have isFirst : d = e := (List.cons.inj same).1
      have blank := (isGap d (isFirst ▸ List.mem_cons_self ..)).1
      exact absurd blank (by simp [next])
    | nil =>
      have isWord' : IsWord (c :: word) :=
        ⟨List.cons_ne_nil _ _, by simpa [letter] using isWord.noBlank⟩
      exact .cons isGap isWord' ends spaced

theorem spaced_words {text : List Char} (noFeed : '\n' ∉ text) : Spaced (words text) text := by
  have noGap : IsGap [] := fun c membership => absurd membership List.not_mem_nil
  induction text with
  | nil => exact .nil noGap
  | cons c rest inductionHypothesis =>
    simp only [List.mem_cons, not_or] at noFeed
    have later := inductionHypothesis noFeed.2
    by_cases own : isBlank c = true
    · rw [words_cons_of_blank own]
      have isGap : IsGap [c] := fun d inside =>
        List.mem_singleton.mp inside ▸ ⟨own, Ne.symm noFeed.1⟩
      exact later.gap_append isGap
    · have letter : isBlank c = false := by simpa using own
      have isWord : IsWord [c] := ⟨List.cons_ne_nil _ _, by simpa using letter⟩
      by_cases ends : ∀ d ∈ rest.head?, isBlank d = true
      · have apart := words_word_append isWord ends
        rw [List.singleton_append] at apart
        rw [apart]
        exact .cons noGap isWord ends later
      · cases rest with
        | nil => exact absurd (by simp) ends
        | cons d rest =>
          have next : isBlank d = false := by simpa using ends
          rw [words, letter, next]
          exact later.letter_cons letter next

theorem spaced_of_words {pieces : List (List Char)} {text : List Char}
    (same : words text = pieces) (noFeed : '\n' ∉ text) : Spaced pieces text := by
  rw [← same]
  exact spaced_words noFeed

theorem IsWord.noFeed {word : List Char} (isWord : IsWord word) : '\n' ∉ word := by
  intro membership
  have blank := isWord.noBlank '\n' membership
  exact absurd blank (by decide)

theorem IsGap.noFeed {gap : List Char} (isGap : IsGap gap) : '\n' ∉ gap :=
  fun membership => (isGap '\n' membership).2 rfl

theorem Spaced.noFeed {pieces : List (List Char)} {text : List Char}
    (spaced : Spaced pieces text) : '\n' ∉ text := by
  induction spaced with
  | nil isGap => exact isGap.noFeed
  | cons isGap isWord ends spaced inductionHypothesis =>
    simp only [List.mem_append, not_or]
    exact ⟨⟨isGap.noFeed, isWord.noFeed⟩, inductionHypothesis⟩

theorem Spaced.isWord_of_mem {pieces : List (List Char)} {text : List Char}
    (spaced : Spaced pieces text) : ∀ word ∈ pieces, IsWord word := by
  induction spaced with
  | nil => simp
  | cons _ isWord _ _ inductionHypothesis =>
    exact List.forall_mem_cons.mpr ⟨isWord, inductionHypothesis⟩

end Words

section Trimming

theorem trimEnd_eq_nil {text : List Char} (blank : ∀ c ∈ text, isBlank c = true) :
    trimEnd text = [] := by
  induction text with
  | nil => rfl
  | cons c rest inductionHypothesis =>
    have later := inductionHypothesis fun d inside => blank d (List.mem_cons_of_mem _ inside)
    simp [trimEnd, later, blank c (List.mem_cons_self ..)]

theorem trimEnd_cons_of_not_blank {c : Char} (solid : isBlank c = false) (rest : List Char) :
    trimEnd (c :: rest) = c :: trimEnd rest := by
  rw [trimEnd]
  cases trimEnd rest <;> simp [solid]

/-- Only what follows the last character that is no blank is cut off. -/
theorem trimEnd_append_cons (front : List Char) {c : Char} (solid : isBlank c = false)
    (rest : List Char) : trimEnd (front ++ c :: rest) = front ++ c :: trimEnd rest := by
  induction front with
  | nil => exact trimEnd_cons_of_not_blank solid rest
  | cons d front inductionHypothesis =>
    rw [List.cons_append, trimEnd, inductionHypothesis]
    cases front <;> rfl

theorem trimEnd_append_gap {gap : List Char} (blank : ∀ c ∈ gap, isBlank c = true)
    (text : List Char) : trimEnd (text ++ gap) = trimEnd text := by
  induction text with
  | nil => exact trimEnd_eq_nil blank
  | cons c text inductionHypothesis => rw [List.cons_append, trimEnd, inductionHypothesis, trimEnd]

theorem trimEnd_of_noBlank {text : List Char} (solid : ∀ c ∈ text, isBlank c = false) :
    trimEnd text = text := by
  induction text with
  | nil => rfl
  | cons c rest inductionHypothesis =>
    rw [trimEnd_cons_of_not_blank (solid c (List.mem_cons_self ..)),
      inductionHypothesis fun d inside => solid d (List.mem_cons_of_mem _ inside)]

theorem trim_gap_append {gap : List Char} (blank : ∀ c ∈ gap, isBlank c = true)
    (text : List Char) : trim (gap ++ text) = trim text := by
  rw [trim, List.dropWhile_append_of_pos blank, trim]

theorem trim_append_gap {gap : List Char} (blank : ∀ c ∈ gap, isBlank c = true)
    (text : List Char) : trim (text ++ gap) = trim text := by
  induction text with
  | nil =>
    have all := trim_gap_append blank []
    rwa [List.append_nil] at all
  | cons c text inductionHypothesis =>
    by_cases own : isBlank c = true
    · unfold trim at inductionHypothesis ⊢
      rw [List.cons_append, List.dropWhile_cons_of_pos own, inductionHypothesis,
        List.dropWhile_cons_of_pos own]
    · unfold trim
      rw [List.cons_append, List.dropWhile_cons_of_neg own, List.dropWhile_cons_of_neg own,
        ← List.cons_append, trimEnd_append_gap blank]

theorem trim_cons_of_not_blank {c : Char} (solid : isBlank c = false) (rest : List Char) :
    trim (c :: rest) = trimEnd (c :: rest) := by
  have notBlank : ¬isBlank c = true := by simp [solid]
  rw [trim, List.dropWhile_cons_of_neg notBlank]

theorem trim_of_isWord {word : List Char} (isWord : IsWord word) : trim word = word := by
  obtain ⟨nonempty, noBlank⟩ := isWord
  cases word with
  | nil => exact absurd rfl nonempty
  | cons c rest =>
    rw [trim_cons_of_not_blank (noBlank c (List.mem_cons_self ..)), trimEnd_of_noBlank noBlank]

theorem exists_gap_of_trimEnd (text : List Char) :
    ∃ gap, (∀ c ∈ gap, isBlank c = true) ∧ trimEnd text ++ gap = text := by
  induction text with
  | nil => exact ⟨[], by simp, rfl⟩
  | cons c rest inductionHypothesis =>
    obtain ⟨gap, blank, same⟩ := inductionHypothesis
    rw [trimEnd]
    cases kept : trimEnd rest with
    | cons d front => exact ⟨gap, blank, by rw [← same, kept]; rfl⟩
    | nil =>
      rw [kept, List.nil_append] at same
      by_cases own : isBlank c = true
      · refine ⟨c :: rest, ?_, by simp [own]⟩
        intro d membership
        rcases List.mem_cons.mp membership with rfl | inside
        · exact own
        · exact blank d (same ▸ inside)
      · exact ⟨gap, blank, by simp [own, same]⟩

theorem words_append_gap {gap : List Char} (blank : ∀ c ∈ gap, isBlank c = true)
    (text : List Char) : words (text ++ gap) = words text := by
  induction text with
  | nil =>
    have none := words_gap_append blank []
    rwa [List.append_nil] at none
  | cons c rest inductionHypothesis =>
    cases rest with
    | cons d rest =>
      rw [List.cons_append] at inductionHypothesis
      rw [List.cons_append, List.cons_append, words, inductionHypothesis, words]
    | nil =>
      rw [List.singleton_append]
      by_cases own : isBlank c = true
      · rw [words_cons_of_blank own, words_cons_of_blank own]
        exact inductionHypothesis
      · have isWord : IsWord [c] := ⟨List.cons_ne_nil _ _, by simpa using own⟩
        have ends : ∀ d ∈ gap.head?, isBlank d = true := fun d head =>
          blank d (List.mem_of_mem_head? head)
        have apart := words_word_append isWord ends
        rw [List.singleton_append] at apart
        rw [apart]
        simp only [List.nil_append] at inductionHypothesis
        simp [inductionHypothesis, words, own]

theorem words_trim (text : List Char) : words (trim text) = words text := by
  obtain ⟨gap, blank, same⟩ := exists_gap_of_trimEnd (text.dropWhile isBlank)
  have front : ∀ c ∈ text.takeWhile isBlank, isBlank c = true := fun c inside =>
    List.mem_takeWhile_imp inside
  calc words (trim text)
      = words (trim text ++ gap) := (words_append_gap blank _).symm
    _ = words (text.dropWhile isBlank) := by rw [trim, same]
    _ = words (text.takeWhile isBlank ++ text.dropWhile isBlank) :=
        (words_gap_append front _).symm
    _ = words text := by rw [List.takeWhile_append_dropWhile]

end Trimming

end SymbolFootprint.Text
