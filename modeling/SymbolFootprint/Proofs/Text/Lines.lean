import Mathlib.Data.List.Forall2
import SymbolFootprint.Proofs.Text.Split
import SymbolFootprint.Proofs.Text.Words
import SymbolFootprint.Text.Lines

/-!
Texts that are written line by line.

A line may end at a line feed or at a carriage return and a line feed. Either way it is read back as
it was, up to a carriage return of its own at its end (`lines_append_ending`). So the lines of a
text are its pieces between the line feeds, up to blanks and to an empty piece at the end
(`lines_split`).
-/

namespace SymbolFootprint.Text

inductive LineEnding : List Char → Prop
  | feed : LineEnding ['\n']
  | returnFeed : LineEnding ['\r', '\n']

theorem lines_feed (rest : List Char) : lines ('\n' :: rest) = [] :: lines rest := by
  rw [lines]

theorem lines_returnFeed (rest : List Char) : lines ('\r' :: '\n' :: rest) = [] :: lines rest := by
  rw [lines]

theorem lines_cons {c : Char} {rest : List Char} (noFeed : c ≠ '\n')
    (noEnding : c = '\r' → rest.head? ≠ some '\n') :
    lines (c :: rest) = prepend c (lines rest) := by
  rw [lines]
  · exact noFeed
  · rintro after isReturn rfl
    exact noEnding isReturn rfl

theorem head?_append_ne_feed {line rest : List Char} (noFeed : '\n' ∉ line)
    (after : line = [] → rest.head? ≠ some '\n') : (line ++ rest).head? ≠ some '\n' := by
  cases line with
  | nil => exact after rfl
  | cons c line =>
    intro head
    have isFeed : c = '\n' := Option.some.inj head
    exact noFeed (isFeed ▸ List.mem_cons_self ..)

theorem lines_append_returnFeed {line : List Char} (noFeed : '\n' ∉ line) (rest : List Char) :
    lines (line ++ '\r' :: '\n' :: rest) = line :: lines rest := by
  induction line with
  | nil => exact lines_returnFeed rest
  | cons c line inductionHypothesis =>
    simp only [List.mem_cons, not_or] at noFeed
    have notReturn : ('\r' :: '\n' :: rest).head? ≠ some '\n' := fun head =>
      absurd (Option.some.inj head) (by decide)
    have noEnding : (line ++ '\r' :: '\n' :: rest).head? ≠ some '\n' :=
      head?_append_ne_feed noFeed.2 fun _ => notReturn
    rw [List.cons_append, lines_cons (Ne.symm noFeed.1) fun _ => noEnding,
      inductionHypothesis noFeed.2]
    rfl

theorem lines_append_feed {line : List Char} (noFeed : '\n' ∉ line)
    (noReturn : line.getLast? ≠ some '\r') (rest : List Char) :
    lines (line ++ '\n' :: rest) = line :: lines rest := by
  induction line with
  | nil => exact lines_feed rest
  | cons c line inductionHypothesis =>
    simp only [List.mem_cons, not_or] at noFeed
    cases line with
    | nil =>
      have noEnding : c = '\r' → ('\n' :: rest).head? ≠ some '\n' := fun isReturn =>
        absurd (by simp [isReturn]) noReturn
      rw [List.singleton_append, lines_cons (Ne.symm noFeed.1) noEnding, lines_feed]
      rfl
    | cons d line =>
      have noEnding : (d :: line ++ '\n' :: rest).head? ≠ some '\n' :=
        head?_append_ne_feed noFeed.2 fun empty => absurd empty (List.cons_ne_nil _ _)
      rw [List.getLast?_cons_cons] at noReturn
      rw [List.cons_append, lines_cons (Ne.symm noFeed.1) fun _ => noEnding,
        inductionHypothesis noFeed.2 noReturn]
      rfl

/-- A line with its ending is read back, up to blanks at its end. -/
theorem lines_append_ending {line ending : List Char} (noFeed : '\n' ∉ line)
    (isEnding : LineEnding ending) (rest : List Char) :
    ∃ read, lines (line ++ ending ++ rest) = read :: lines rest ∧ trim read = trim line := by
  rw [List.append_assoc]
  cases isEnding with
  | returnFeed => exact ⟨line, lines_append_returnFeed noFeed rest, rfl⟩
  | feed =>
    by_cases noReturn : line.getLast? = some '\r'
    · obtain ⟨front, rfl⟩ := List.getLast?_eq_some_iff.mp noReturn
      have blank : ∀ c ∈ ['\r'], isBlank c = true := List.forall_mem_singleton.mpr (by decide)
      refine ⟨front, ?_, (trim_append_gap blank front).symm⟩
      rw [List.append_assoc]
      exact lines_append_returnFeed (fun inside => noFeed (List.mem_append_left _ inside)) rest
    · exact ⟨line, lines_append_feed noFeed noReturn rest, rfl⟩

theorem lines_of_noFeed {line : List Char} (nonempty : line ≠ []) (noFeed : '\n' ∉ line) :
    lines line = [line] := by
  induction line with
  | nil => exact absurd rfl nonempty
  | cons c line inductionHypothesis =>
    simp only [List.mem_cons, not_or] at noFeed
    have noEnding : line.head? ≠ some '\n' := fun head =>
      noFeed.2 (List.mem_of_mem_head? head)
    rw [lines_cons (Ne.symm noFeed.1) fun _ => noEnding]
    cases line with
    | nil => rfl
    | cons d line =>
      rw [inductionHypothesis (List.cons_ne_nil _ _) noFeed.2]
      rfl

/-- Pieces are read as lines, except for an empty one at the end. -/
theorem lines_join {pieces : List (List Char)} (nonempty : pieces ≠ [])
    (noFeed : ∀ piece ∈ pieces, '\n' ∉ piece) :
    ∃ rest, (rest = [] ∨ rest = [[]]) ∧
      List.Forall₂ (trim · = trim ·) (lines (join ['\n'] pieces) ++ rest) pieces := by
  induction pieces with
  | nil => exact absurd rfl nonempty
  | cons piece pieces inductionHypothesis =>
    have ⟨own, others⟩ := List.forall_mem_cons.mp noFeed
    cases pieces with
    | nil =>
      by_cases empty : piece = []
      · exact ⟨[[]], .inr rfl, by simp [empty, join, lines]⟩
      · exact ⟨[], .inl rfl, by simp [join, lines_of_noFeed empty own]⟩
    | cons next pieces =>
      obtain ⟨read, apart, same⟩ := lines_append_ending own .feed (join ['\n'] (next :: pieces))
      obtain ⟨rest, isRest, later⟩ := inductionHypothesis (List.cons_ne_nil _ _) others
      refine ⟨rest, isRest, ?_⟩
      rw [join_cons_cons, apart]
      exact .cons same later

theorem lines_split (text : List Char) :
    ∃ rest, (rest = [] ∨ rest = [[]]) ∧
      List.Forall₂ (trim · = trim ·) (lines text ++ rest) (split '\n' text) := by
  have read := lines_join (split_ne_nil '\n' text) fun _ => not_mem_of_mem_split
  rwa [join_split] at read

end SymbolFootprint.Text
