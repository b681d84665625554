/-!
Cutting a text at a delimiter, and gluing pieces together.

`Text.split` always gives at least one piece, and joining the pieces with the delimiter gives the
text back (`join_split`).
-/

namespace SymbolFootprint.Text

def prepend (c : Char) : List (List Char) → List (List Char)
  | [] => [[c]]
  | piece :: pieces => (c :: piece) :: pieces

/-- The pieces of a text between the delimiters; a text without one is a single piece. -/
def split (delimiter : Char) : List Char → List (List Char)
  | [] => [[]]
  | c :: rest =>
    if c = delimiter then [] :: split delimiter rest else prepend c (split delimiter rest)

/-- The pieces in a row, with the separator between neighbours. -/
def join (separator : List Char) : List (List Char) → List Char
  | [] => []
  | [piece] => piece
  | piece :: pieces => piece ++ separator ++ join separator pieces

theorem split_ne_nil (delimiter : Char) (text : List Char) : split delimiter text ≠ [] := by
  cases text with
  | nil => simp [split]
  | cons c rest =>
    unfold split
    split
    · simp
    · unfold prepend
      split <;> simp

@[simp]
theorem join_cons_cons (separator piece next : List Char) (pieces : List (List Char)) :
    join separator (piece :: next :: pieces) =
      piece ++ separator ++ join separator (next :: pieces) := rfl

theorem join_prepend (separator : List Char) (c : Char) (pieces : List (List Char)) :
    join separator (prepend c pieces) = c :: join separator pieces := by
  match pieces with
  | [] => rfl
  | [_] => rfl
  | _ :: _ :: _ => simp [prepend, join]

/-- Joining the pieces with the delimiter gives the text back. -/
theorem join_split (delimiter : Char) (text : List Char) :
    join [delimiter] (split delimiter text) = text := by
  induction text with
  | nil => rfl
  | cons c rest ih =>
    simp only [split]
    split
    · next h =>
      subst h
      cases hs : split c rest with
      | nil => exact absurd hs (split_ne_nil c rest)
      | cons piece pieces =>
        rw [hs] at ih
        rw [join_cons_cons, ih]
        rfl
    · rw [join_prepend, ih]

/-- No piece holds the delimiter. -/
theorem not_mem_of_mem_split {delimiter : Char} {text piece : List Char}
    (membership : piece ∈ split delimiter text) : delimiter ∉ piece := by
  induction text generalizing piece with
  | nil =>
    simp only [split, List.mem_singleton] at membership
    simp [membership]
  | cons c rest ih =>
    simp only [split] at membership
    split at membership
    · rcases List.mem_cons.1 membership with rfl | inside
      · simp
      · exact ih inside
    · next distinct =>
      cases hs : split delimiter rest with
      | nil => exact absurd hs (split_ne_nil delimiter rest)
      | cons first others =>
        rw [hs] at membership ih
        simp only [prepend, List.mem_cons] at membership
        rcases membership with rfl | inside
        · have := ih (List.mem_cons_self ..)
          simp only [List.mem_cons, not_or]
          exact ⟨fun equal => distinct equal.symm, this⟩
        · exact ih (List.mem_cons_of_mem _ inside)

end SymbolFootprint.Text
