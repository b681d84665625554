import SymbolFootprint.Text.Split

/-!
Cutting and gluing undo each other.

Both are operations of lists (`split_eq_splitOn`, `join_eq_intercalate`). So texts that are put
together at a delimiter are cut into the pieces of both (`split_append_cons`), and pieces without
the delimiter are found again in what they were joined to (`split_join`). What is joined consists of
the characters of its pieces and of the separator (`mem_of_mem_join`, `mem_join_of_mem`).
-/

namespace SymbolFootprint.Text

theorem prepend_eq_modifyHead {pieces : List (List Char)} (nonempty : pieces ≠ []) (c : Char) :
    prepend c pieces = pieces.modifyHead (List.cons c) := by
  cases pieces with
  | nil => exact absurd rfl nonempty
  | cons piece pieces => rfl

theorem split_eq_splitOn (delimiter : Char) (text : List Char) :
    split delimiter text = text.splitOn delimiter := by
  induction text with
  | nil => rw [split, List.splitOn_nil]
  | cons c rest inductionHypothesis =>
    rw [split, List.splitOn_cons_eq_if_modifyHead,
      prepend_eq_modifyHead (split_ne_nil delimiter rest), inductionHypothesis]
    simp only [beq_iff_eq]

theorem join_eq_intercalate (separator : List Char) (pieces : List (List Char)) :
    join separator pieces = separator.intercalate pieces := by
  induction pieces with
  | nil => rfl
  | cons piece pieces inductionHypothesis =>
    cases pieces with
    | nil => simp [join]
    | cons next pieces =>
      rw [join_cons_cons, inductionHypothesis, List.intercalate_cons_cons]

theorem split_append_cons (delimiter : Char) (front back : List Char) :
    split delimiter (front ++ delimiter :: back) =
      split delimiter front ++ split delimiter back := by
  simp only [split_eq_splitOn]
  exact List.splitOn_append_cons_self front back

theorem split_join {delimiter : Char} {pieces : List (List Char)} (nonempty : pieces ≠ [])
    (absent : ∀ piece ∈ pieces, delimiter ∉ piece) :
    split delimiter (join [delimiter] pieces) = pieces := by
  rw [split_eq_splitOn, join_eq_intercalate, List.splitOn_intercalate delimiter absent nonempty]

theorem join_append (separator : List Char) {first second : List (List Char)} (front : first ≠ [])
    (back : second ≠ []) :
    join separator (first ++ second) =
      join separator first ++ separator ++ join separator second := by
  induction first with
  | nil => exact absurd rfl front
  | cons piece first inductionHypothesis =>
    cases first with
    | nil =>
      cases second with
      | nil => exact absurd rfl back
      | cons next second => rfl
    | cons next first =>
      rw [List.cons_append, List.cons_append, join_cons_cons, ← List.cons_append,
        inductionHypothesis (List.cons_ne_nil _ _), join_cons_cons]
      simp only [List.append_assoc]

theorem mem_of_mem_join {separator : List Char} {c : Char} {pieces : List (List Char)}
    (membership : c ∈ join separator pieces) : c ∈ separator ∨ ∃ piece ∈ pieces, c ∈ piece := by
  induction pieces with
  | nil => cases membership
  | cons piece pieces inductionHypothesis =>
    cases pieces with
    | nil => exact .inr ⟨piece, List.mem_cons_self .., membership⟩
    | cons next pieces =>
      rw [join_cons_cons] at membership
      simp only [List.mem_append] at membership
      rcases membership with (own | between) | later
      · exact .inr ⟨piece, List.mem_cons_self .., own⟩
      · exact .inl between
      · rcases inductionHypothesis later with between | ⟨other, inside, own⟩
        · exact .inl between
        · exact .inr ⟨other, List.mem_cons_of_mem _ inside, own⟩

theorem mem_join_of_mem {separator piece : List Char} {c : Char} {pieces : List (List Char)}
    (membership : piece ∈ pieces) (own : c ∈ piece) : c ∈ join separator pieces := by
  induction pieces with
  | nil => cases membership
  | cons first pieces inductionHypothesis =>
    cases pieces with
    | nil => exact List.mem_singleton.mp membership ▸ own
    | cons next pieces =>
      rw [join_cons_cons, List.mem_append, List.mem_append]
      rcases List.mem_cons.mp membership with rfl | inside
      · exact .inl (.inl own)
      · exact .inr (inductionHypothesis inside)

theorem map_ofList_map_toList (texts : List String) :
    (texts.map String.toList).map String.ofList = texts := by
  rw [List.map_map]
  exact List.map_id'' (fun _ => String.ofList_toList) texts

end SymbolFootprint.Text
