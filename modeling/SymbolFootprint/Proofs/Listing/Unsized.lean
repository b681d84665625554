import SymbolFootprint.Listing.Nm
import SymbolFootprint.Proofs.Size.Grammar

/-!
Lines without a size in a listing of `nm`.

A line is an entry if it has four words and the second one is a size (`parseLine_of_columns`). On a
line without a size, other words move into this place: the letter of the type behind an address, or
the first word of the name where there is no address. Such a line is malformed unless this word
happens to be a size and the name is long enough to fill the columns behind it (`parseLine_unsized`).
-/

namespace SymbolFootprint

namespace Nm

open Text (Spaced)

/-- Columns with a size in the second place. -/
inductive Sized : List (List Char) → SymbolRecord → Prop
  | intro {address word type first more} {size : Size} : Size.Accepted word size.bytes →
      Sized (address :: word :: type :: first :: more)
        ⟨String.ofList (Text.join [' '] (first :: more)), size, .ofNmType (String.ofList type)⟩

section Columns

theorem few_or_enough (columns : List (List Char)) :
    columns.length < 4 ∨
      ∃ address word type first more, columns = address :: word :: type :: first :: more := by
  match columns with
  | [] | [_] | [_, _] | [_, _, _] => simp
  | address :: word :: type :: first :: more => exact .inr ⟨_, _, _, _, _, rfl⟩

theorem Sized.not_few {columns : List (List Char)} {record : SymbolRecord}
    (sized : Sized columns record) : ¬ columns.length < 4 := by
  obtain ⟨_⟩ := sized
  simp

variable {columns : List (List Char)} {line : List Char} (spaced : Spaced columns line)

include spaced

theorem words_trim_of_spaced : Text.words (Text.trim line) = columns := by
  rw [Text.words_trim, Text.words_of_spaced spaced]

theorem parseLine_of_few (nonempty : columns ≠ []) (few : columns.length < 4) :
    parseLine line =
      .error ⟨String.ofList (Text.trim line), "expected at least 4 columns"⟩ := by
  rw [parseLine, words_trim_of_spaced spaced]
  match columns with
  | [] => exact absurd rfl nonempty
  | [_] | [_, _] | [_, _, _] => rfl
  | _ :: _ :: _ :: _ :: _ =>
    simp only [List.length_cons] at few
    omega

theorem parseLine_of_enough {address word type first : List Char} {more : List (List Char)}
    (enough : columns = address :: word :: type :: first :: more) :
    parseLine line =
      match Size.parse word with
      | .error _ => .error ⟨String.ofList (Text.trim line), "invalid size column"⟩
      | .ok size =>
        .ok (some ⟨String.ofList (Text.join [' '] (first :: more)), size,
          .ofNmType (String.ofList type)⟩) := by
  cases read : Size.parse word with
  | error fault => simp only [parseLine, words_trim_of_spaced spaced, enough, read]
  | ok size => simp only [parseLine, words_trim_of_spaced spaced, enough, read]

/-- A line gives a record exactly if its second column is a size. -/
theorem parseLine_eq_some_iff (nonempty : columns ≠ []) {record : SymbolRecord} :
    parseLine line = .ok (some record) ↔ Sized columns record := by
  rcases few_or_enough columns with few | ⟨address, word, type, first, more, rfl⟩
  · rw [parseLine_of_few spaced nonempty few]
    simp only [reduceCtorEq, false_iff]
    exact fun sized => sized.not_few few
  · have isWord : Text.IsWord word := spaced.isWord_of_mem word (by simp)
    rw [parseLine_of_enough spaced rfl]
    constructor
    · intro read
      split at read
      · cases read
      · next size isSize =>
        cases read
        exact .intro ((Size.parse_eq_ok_iff isWord).mp isSize)
    · rintro ⟨accepted⟩
      rw [(Size.parse_eq_ok_iff isWord).mpr accepted]

theorem parseLine_of_not_sized (nonempty : columns ≠ [])
    (unsized : ∀ record, ¬ Sized columns record) :
    ∃ reason, parseLine line = .error ⟨String.ofList (Text.trim line), reason⟩ := by
  rcases few_or_enough columns with few | ⟨address, word, type, first, more, enough⟩
  · exact ⟨_, parseLine_of_few spaced nonempty few⟩
  · have result := parseLine_of_enough spaced enough
    split at result
    · exact ⟨_, result⟩
    · exact absurd ((parseLine_eq_some_iff spaced nonempty).mp result) (unsized _)

end Columns

/-- An entry without a size: maybe an address, the letter of a type, and the words of a name. -/
structure Unsized where
  address : Option (List Char)
  letter : Char
  name : List (List Char)
deriving DecidableEq

namespace Unsized

def columns (entry : Unsized) : List (List Char) :=
  entry.address.toList ++ [entry.letter] :: entry.name

/-- The records that such an entry is mistaken for: behind an address the letter of the type is a
digit, or without an address the name begins with a size. -/
inductive MistakenFor : Unsized → SymbolRecord → Prop
  | letter {address letter type first more} {size : Size} : IsDigit 16 letter size.bytes →
      MistakenFor ⟨some address, letter, type :: first :: more⟩
        ⟨String.ofList (Text.join [' '] (first :: more)), size, .ofNmType (String.ofList type)⟩
  | name {letter word type first more} {size : Size} : Size.Accepted word size.bytes →
      MistakenFor ⟨none, letter, word :: type :: first :: more⟩
        ⟨String.ofList (Text.join [' '] (first :: more)), size, .ofNmType (String.ofList type)⟩

theorem columns_ne_nil (entry : Unsized) : entry.columns ≠ [] := by
  simp [columns]

/-- Words of the entry stand in the columns of a record just where it is mistaken for one. -/
theorem sized_columns_iff {entry : Unsized} {record : SymbolRecord} :
    Sized entry.columns record ↔ entry.MistakenFor record := by
  obtain ⟨address, letter, name⟩ := entry
  constructor
  · intro sized
    generalize same : columns _ = words at sized
    cases sized with
    | @intro first word type next more size accepted =>
      cases address with
      | none =>
        cases same
        exact .name accepted
      | some address =>
        cases same
        exact .letter (Size.accepted_singleton_iff.mp accepted)
  · intro mistaken
    cases mistaken with
    | letter isDigit => exact .intro (Size.accepted_singleton_iff.mpr isDigit)
    | name accepted => exact .intro accepted

end Unsized

/-- A line without a size gives a record exactly if a word in the place of the size is one, and then
it gives the record that it is mistaken for. Every other such line is malformed. -/
theorem parseLine_unsized {entry : Unsized} {line : List Char}
    (spaced : Spaced entry.columns line) :
    (∀ record, parseLine line = .ok (some record) ↔ entry.MistakenFor record) ∧
    ((∀ record, ¬ entry.MistakenFor record) →
      ∃ reason, parseLine line = .error ⟨String.ofList (Text.trim line), reason⟩) := by
  simp only [← Unsized.sized_columns_iff]
  constructor
  · intro record
    exact parseLine_eq_some_iff spaced entry.columns_ne_nil
  · exact parseLine_of_not_sized spaced entry.columns_ne_nil

/-- The words of this name fill four columns, but the first of them is no size. -/
theorem parseLine_unsized_operator :
    let name := ["operator".toList, "new(unsigned".toList, "long)".toList]
    let entry : Unsized := ⟨none, 'U', name⟩
    let line := "                 U operator new(unsigned long)".toList
    Spaced entry.columns line ∧
    (∀ record, ¬ entry.MistakenFor record) ∧
    ∃ reason, parseLine line = .error ⟨"U operator new(unsigned long)", reason⟩ := by
  intro name entry line
  have spaced : Spaced entry.columns line := Text.spaced_of_words (by decide) (by decide)
  have unmistaken : ∀ record, ¬ entry.MistakenFor record := by
    intro record mistaken
    dsimp only [entry, name] at mistaken
    cases mistaken with
    | name accepted =>
      have isWord : Text.IsWord "operator".toList := by decide
      have noSize : (Size.parse "operator".toList).isOk = false := by decide
      rw [(Size.parse_eq_ok_iff isWord).mpr accepted] at noSize
      cases noSize
  exact ⟨spaced, unmistaken, (parseLine_unsized spaced).2 unmistaken⟩

/-- The letter for a variable without a value is a hexadecimal digit, so where the name of such a
variable has several words, its line is read with the size eleven. An undefined function whose name
begins with a hexadecimal word is even counted. -/
theorem guardVariable_mistaken :
    let name := ["guard".toList, "variable".toList, "for".toList, "f()::x".toList]
    let guarding : Unsized := ⟨some "0000000000004010".toList, 'b', name⟩
    let line := "0000000000004010 b guard variable for f()::x".toList
    let adding : Unsized := ⟨none, 'U', ["add".toList, "T".toList, "to".toList, "table".toList]⟩
    let undefined := "                 U add T to table".toList
    let added : SymbolRecord := ⟨"to table", .clamp 0xadd, .function⟩
    Spaced guarding.columns line ∧
    parseLine line = .ok (some ⟨"variable for f()::x", .clamp 11, .other⟩) ∧
    Spaced adding.columns undefined ∧
    parseLine undefined = .ok (some added) ∧ added.attributable = true := by
  intro name guarding line adding undefined added
  refine ⟨Text.spaced_of_words ?_ ?_, ?_, Text.spaced_of_words ?_ ?_, ?_, ?_⟩
  all_goals decide

end Nm

end SymbolFootprint
