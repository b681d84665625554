/-!
Taking a known beginning or a known end off a text.
-/

namespace SymbolFootprint.Text

/-- What follows the given beginning, if the text has it. -/
def afterStart? (start text : List Char) : Option (List Char) :=
  if start.isPrefixOf text then some (text.drop start.length) else none

/-- What precedes the given end, if the text has it. -/
def beforeEnd? (ending text : List Char) : Option (List Char) :=
  if ending.isSuffixOf text then some (text.take (text.length - ending.length)) else none

/-- What precedes and what follows the first place where the given piece stands. -/
def cut? (piece : List Char) : List Char → Option (List Char × List Char)
  | [] => if piece = [] then some ([], []) else none
  | c :: rest =>
    match afterStart? piece (c :: rest) with
    | some after => some ([], after)
    | none => (cut? piece rest).map fun (before, after) => (c :: before, after)

theorem afterStart?_eq_some_iff {start text rest : List Char} :
    afterStart? start text = some rest ↔ text = start ++ rest := by
  unfold afterStart?
  split
  · next fits =>
    obtain ⟨tail, rfl⟩ := List.isPrefixOf_iff_prefix.1 fits
    simp
  · next unfit =>
    simp only [reduceCtorEq, false_iff]
    rintro rfl
    exact unfit (List.isPrefixOf_iff_prefix.2 (List.prefix_append ..))

theorem beforeEnd?_eq_some_iff {ending text rest : List Char} :
    beforeEnd? ending text = some rest ↔ text = rest ++ ending := by
  unfold beforeEnd?
  split
  · next fits =>
    obtain ⟨front, rfl⟩ := List.isSuffixOf_iff_suffix.1 fits
    simp
  · next unfit =>
    simp only [reduceCtorEq, false_iff]
    rintro rfl
    exact unfit (List.isSuffixOf_iff_suffix.2 (List.suffix_append ..))

end SymbolFootprint.Text
