import SymbolFootprint.Listing.Readelf
import SymbolFootprint.Proofs.Listing.Entries
import SymbolFootprint.Proofs.Text.LineFeeds

/-!
Lines of a listing that do not affect each other.

Both kinds of listing are read line by line, and which lines there are is decided by the bytes:
each line between line feeds is decoded on its own (`Nm.parse_decodeLossy`,
`Readelf.parse_decodeLossy`). In a listing of `nm` a line gives its record or nothing. In a listing
of `readelf` it may also be a heading, which says where the records on later lines belong; a line
that is neither an entry nor a heading can be left out (`Readelf.Tables.ofLines_silent`). So a
damaged line costs at most its own record, also if its bytes end in the middle of a character
(`lines_isolated`).
-/

namespace SymbolFootprint

open Utf8 (decodeLossy)

namespace Nm

theorem record?_congr {read line : List Char} (same : Text.trim read = Text.trim line) :
    record? read = record? line := by
  rw [record?, parseLine_congr same, ← record?]

theorem filterMap_record?_congr {reads lines : List (List Char)}
    (same : List.Forall₂ (Text.trim · = Text.trim ·) reads lines) :
    reads.filterMap record? = lines.filterMap record? := by
  induction same with
  | nil => rfl
  | cons first _ inductionHypothesis =>
    rw [List.filterMap_cons, List.filterMap_cons, record?_congr first, inductionHypothesis]

theorem parse_eq_split (listing : List Char) :
    parse listing = (Text.split '\n' listing).filterMap record? := by
  obtain ⟨rest, isRest, same⟩ := Text.lines_split listing
  have silent : rest.filterMap record? = [] := by
    rcases isRest with rfl | rfl <;> decide
  rw [← filterMap_record?_congr same, List.filterMap_append, silent, List.append_nil, parse]

/-- Each line of the bytes gives its own record. -/
theorem parse_decodeLossy (bytes : List UInt8) :
    parse (decodeLossy bytes) = ((bytes.splitOn 0x0A).map decodeLossy).filterMap record? := by
  rw [parse_eq_split, Utf8.split_decodeLossy]

end Nm

namespace Readelf

/-- Is the line neither a heading nor an entry that gives a record? -/
def IsSilent (line : List Char) : Prop :=
  heading? (Text.trim line) = none ∧ record? (Text.trim line) = none

instance (line : List Char) : Decidable (IsSilent line) :=
  inferInstanceAs (Decidable (_ ∧ _))

namespace Tables

theorem ofLines_congr {reads lines : List (List Char)}
    (same : List.Forall₂ (Text.trim · = Text.trim ·) reads lines) (inDynamic : Bool) :
    ofLines inDynamic reads = ofLines inDynamic lines := by
  induction same generalizing inDynamic with
  | nil => rfl
  | cons first _ inductionHypothesis => simp only [ofLines, first, inductionHypothesis]

/-- A line that says nothing can be left out, whatever table it stands in. -/
theorem ofLines_silent {line : List Char} (silent : IsSilent line) (inDynamic : Bool)
    (front back : List (List Char)) :
    ofLines inDynamic (front ++ line :: back) = ofLines inDynamic (front ++ back) := by
  induction front generalizing inDynamic with
  | nil => simp only [List.nil_append, ofLines, silent.1, silent.2]
  | cons other front inductionHypothesis =>
    simp only [List.cons_append, ofLines, inductionHypothesis]

end Tables

theorem parse_eq_split (listing : List Char) :
    parse listing = (Tables.ofLines false (Text.split '\n' listing)).records := by
  obtain ⟨rest, isRest, same⟩ := Text.lines_split listing
  rw [parse, ← Tables.ofLines_congr same]
  rcases isRest with rfl | rfl
  · rw [List.append_nil]
  · have silent : IsSilent [] := by decide
    rw [Tables.ofLines_silent silent, List.append_nil]

theorem parse_decodeLossy (bytes : List UInt8) :
    parse (decodeLossy bytes) =
      (Tables.ofLines false ((bytes.splitOn 0x0A).map decodeLossy)).records := by
  rw [parse_eq_split, Utf8.split_decodeLossy]

end Readelf

theorem exists_lines_before {before : List UInt8}
    (boundary : ∀ byte ∈ before.getLast?, byte = 0x0A) :
    ∃ front, ∀ after, (before ++ after).splitOn 0x0A = front ++ after.splitOn 0x0A := by
  rcases List.eq_nil_or_concat before with rfl | ⟨front, byte, rfl⟩
  · exact ⟨[], fun after => rfl⟩
  · have feed : byte = 0x0A := boundary byte (by simp)
    refine ⟨front.splitOn 0x0A, fun after => ?_⟩
    rw [feed, List.concat_eq_append, List.append_assoc, List.singleton_append,
      List.splitOn_append_cons_self]

/-- The records of two listings of `nm` with a line feed between them are those of the one and then
those of the other. A line of a listing of `readelf` that is neither a heading nor gives a record
may as well not be there. -/
theorem lines_isolated :
    (∀ front back : List UInt8,
      Nm.parse (decodeLossy (front ++ 0x0A :: back)) =
        Nm.parse (decodeLossy front) ++ Nm.parse (decodeLossy back)) ∧
    ∀ before line after : List UInt8, (∀ byte ∈ before.getLast?, byte = 0x0A) → 0x0A ∉ line →
      Readelf.IsSilent (decodeLossy line) →
      Readelf.parse (decodeLossy (before ++ (line ++ [0x0A]) ++ after)) =
        Readelf.parse (decodeLossy (before ++ after)) := by
  constructor
  · intro front back
    simp only [Nm.parse_decodeLossy, List.splitOn_append_cons_self, List.map_append,
      List.filterMap_append]
  · intro before line after boundary noFeed silent
    obtain ⟨front, cut⟩ := exists_lines_before boundary
    have lines : (before ++ (line ++ [0x0A]) ++ after).splitOn 0x0A =
        front ++ line :: after.splitOn 0x0A := by
      rw [List.append_assoc, cut, List.append_assoc, List.singleton_append,
        List.splitOn_append_cons_self, List.splitOn_eq_singleton noFeed, List.singleton_append]
    rw [Readelf.parse_decodeLossy, Readelf.parse_decodeLossy, lines, cut, List.map_append,
      List.map_append, List.map_cons, Readelf.Tables.ofLines_silent silent]

/-- Both listings have a line that ends in the middle of a character. The second of them is one of a
dynamic table, and the line that is cut short gives no record. -/
theorem lines_isolated_cut :
    let front := Utf8.encode "10 4 T ".toList ++ [0xC3]
    let back := Utf8.encode "20 8 d limit".toList
    let before := Utf8.encode
      "Symbol table '.dynsym':\n 1: 0 4 FUNC GLOBAL DEFAULT 1 puts\n".toList
    let line := Utf8.encode " 2: 0 9 FUN".toList ++ [0xE3, 0x81]
    let after := Utf8.encode " 3: 0 8 OBJECT GLOBAL DEFAULT 1 environ".toList
    Nm.parse (decodeLossy (front ++ 0x0A :: back)) =
        [⟨"\uFFFD", .clamp 4, .function⟩, ⟨"limit", .clamp 8, .object⟩] ∧
      (∀ byte ∈ before.getLast?, byte = 0x0A) ∧ 0x0A ∉ line ∧
      Readelf.IsSilent (decodeLossy line) ∧
      Readelf.parse (decodeLossy (before ++ (line ++ [0x0A]) ++ after)) =
        [⟨"puts", .clamp 4, .function⟩, ⟨"environ", .clamp 8, .object⟩] := by
  intro front back before line after
  have last : before.getLast? = some 0x0A := by decide
  have boundary : ∀ byte ∈ before.getLast?, byte = 0x0A := by
    intro byte membership
    rw [last] at membership
    exact (Option.some.inj membership).symm
  have noFeed : 0x0A ∉ line := by decide
  have silent : Readelf.IsSilent (decodeLossy line) := by decide
  exact ⟨(lines_isolated.1 front back).trans (by decide), boundary, noFeed, silent,
    (lines_isolated.2 before line after boundary noFeed silent).trans (by decide)⟩

end SymbolFootprint
