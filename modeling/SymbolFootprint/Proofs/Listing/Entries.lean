import SymbolFootprint.Proofs.Listing.Unsized
import SymbolFootprint.Proofs.Text.Lines

/-!
Listings of `nm`, as they are written and as they are read back.

An entry is written on a line of its own, with any blanks between and around its columns
(`Entry.Line`). Blanks around a line do not matter (`parseLine_congr`), so a line gives the record
of its entry also if a carriage return came off its end (`record?_of_spaced`). So a listing gives
the records of its entries in order (`parse_entries`).
-/

namespace SymbolFootprint.Nm

/-- A symbol with its size, the letter of its type and the words of its name. The address says
nothing about its record. -/
structure Entry where
  size : Size
  type : List Char
  name : List (List Char)
  named : name ≠ []
deriving DecidableEq

def Entry.record (entry : Entry) : SymbolRecord :=
  ⟨String.ofList (Text.join [' '] entry.name), entry.size, .ofNmType (String.ofList entry.type)⟩

/-- The ways to write an entry on a line, with the end of the line. -/
inductive Entry.Line : Entry → List Char → Prop
  | intro {entry address size line ending} : Size.Written size entry.size.bytes →
      Text.Spaced (address :: size :: entry.type :: entry.name) line → Text.LineEnding ending →
      Line entry (line ++ ending)

theorem parseLine_congr {read line : List Char} (same : Text.trim read = Text.trim line) :
    parseLine read = parseLine line := by
  rw [parseLine, parseLine, same]

theorem Entry.sized (entry : Entry) (address : List Char) {size : List Char}
    (accepted : Size.Accepted size entry.size.bytes) :
    Sized (address :: size :: entry.type :: entry.name) entry.record := by
  obtain ⟨bytes, type, name, named⟩ := entry
  obtain ⟨first, more, rfl⟩ := List.exists_cons_of_ne_nil named
  exact .intro accepted

/-- A line gives the record of its entry, also if blanks at its end came off. -/
theorem record?_of_spaced {entry : Entry} {address size line read : List Char}
    (written : Size.Written size entry.size.bytes)
    (spaced : Text.Spaced (address :: size :: entry.type :: entry.name) line)
    (same : Text.trim read = Text.trim line) : record? read = some entry.record := by
  have sized := entry.sized address written.accepted
  have parsed : parseLine line = .ok (some entry.record) :=
    (parseLine_eq_some_iff spaced (List.cons_ne_nil _ _)).mpr sized
  rw [record?, parseLine_congr same, parsed]

/-- The entries of a listing come back one by one. -/
theorem parse_entries {entries : List Entry} {lines : List (List Char)}
    (written : List.Forall₂ Entry.Line entries lines) :
    parse lines.flatten = entries.map Entry.record := by
  induction written with
  | nil => rfl
  | @cons entry _ entries lines isLine written inductionHypothesis =>
    obtain ⟨isSize, spaced, isEnding⟩ := isLine
    obtain ⟨read, apart, same⟩ := Text.lines_append_ending spaced.noFeed isEnding lines.flatten
    rw [List.flatten_cons, parse, apart,
      List.filterMap_cons_some (record?_of_spaced isSize spaced same), ← parse,
      inductionHypothesis, List.map_cons]

/-- A size in decimal digits behind zeros, a hexadecimal one, a name of several words, and both ways
to end a line. -/
theorem parse_entries_operator :
    let operator : Entry :=
      ⟨.clamp 42, "T".toList, ["operator".toList, "new(unsigned".toList, "long)".toList],
        List.cons_ne_nil _ _⟩
    let object : Entry := ⟨.clamp 0x1F, "d".toList, ["instance".toList], List.cons_ne_nil _ _⟩
    let lines :=
      ["00004160 0042 T operator new(unsigned  long)".toList ++ ['\r', '\n'],
        "\t8000 0x1F\td instance ".toList ++ ['\n']]
    List.Forall₂ Entry.Line [operator, object] lines ∧
    parse lines.flatten =
      [⟨"operator new(unsigned long)", .clamp 42, .function⟩,
        ⟨"instance", .clamp 0x1F, .object⟩] := by
  intro operator object lines
  have decimal : Size.Written "0042".toList 42 :=
    .decimal (.append (.append (.append (.digit (.of_lt 0 (by decide))) (.of_lt 0 (by decide)))
      (.of_lt 4 (by decide))) (.of_lt 2 (by decide)))
  have capital : IsDigit 16 'F' 15 := ⟨by decide, .inr (by decide)⟩
  have hexadecimal : Size.Written "0x1F".toList 0x1F :=
    .hexadecimal (.inl rfl) (.append (.digit (.of_lt 1 (by decide))) capital)
  have first : Text.Spaced
      ("00004160".toList :: "0042".toList :: operator.type :: operator.name)
      "00004160 0042 T operator new(unsigned  long)".toList :=
    Text.spaced_of_words (by decide) (by decide)
  have second : Text.Spaced ("8000".toList :: "0x1F".toList :: object.type :: object.name)
      "\t8000 0x1F\td instance ".toList := Text.spaced_of_words (by decide) (by decide)
  have written : List.Forall₂ Entry.Line [operator, object] lines :=
    .cons (.intro decimal first .returnFeed) (.cons (.intro hexadecimal second .feed) .nil)
  exact ⟨written, (parse_entries written).trans (by decide)⟩

end SymbolFootprint.Nm
