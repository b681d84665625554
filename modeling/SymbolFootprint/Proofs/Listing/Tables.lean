import SymbolFootprint.Listing.Readelf
import SymbolFootprint.Proofs.Size.Grammar
import SymbolFootprint.Proofs.Text.Lines

/-!
Listings of symbol tables, as they are written and as they are read back.

A listing is written line by line: for each table a heading, a line with the titles of the columns,
and a line for each entry, with any blanks between and around the columns (`Listing`). Each line is
read as what it was written for (`ofLines_line`), so the tables of a listing come back entry by
entry (`ofLines_listing`). Of these the dynamic ones count only if no other table has an entry with
a name (`parse_listing`).
-/

namespace SymbolFootprint.Readelf

/-- An entry of a table, without the columns that say nothing about its record. The name may be of
several words, or of none. -/
structure Entry where
  size : Size
  type : List Char
  index : List Char
  name : List (List Char)
deriving DecidableEq

def Entry.record (entry : Entry) : SymbolRecord :=
  ⟨String.ofList (Text.join [' '] entry.name), entry.size,
    .ofReadelfType (String.ofList entry.type)⟩

structure Table where
  name : List Char
  entries : List Entry
deriving DecidableEq

namespace Table

def isDynamic (table : Table) : Bool :=
  ".dynsym".toList.isPrefixOf table.name

def named (table : Table) : List Entry :=
  table.entries.filter (·.name ≠ [])

end Table

def namedOrdinary (tables : List Table) : List Entry :=
  (tables.filter fun table => !table.isDynamic).flatMap Table.named

def namedDynamic (tables : List Table) : List Entry :=
  (tables.filter Table.isDynamic).flatMap Table.named

/-- What a line of a listing is written for. -/
inductive Item where
  | heading (table : List Char)
  | titles
  | entry (entry : Entry)
deriving DecidableEq

namespace Item

/-- Is the table a dynamic one on the lines behind this one? -/
def mode (inDynamic : Bool) : Item → Bool
  | .heading table => ".dynsym".toList.isPrefixOf table
  | .titles => inDynamic
  | .entry _ => inDynamic

def named : Item → List Entry
  | .heading _ => []
  | .titles => []
  | .entry columns => if columns.name = [] then [] else [columns]

end Item

def Table.items (table : Table) : List Item :=
  .heading table.name :: .titles :: table.entries.map .entry

/-- The ways to write a line. -/
inductive Item.Line : Item → List Char → Prop
  | heading {before table after} : Text.IsGap before → '\n' ∉ table → '\n' ∉ after →
      Line (.heading table)
        (before ++ ("Symbol table '".toList ++ table ++ "' contains".toList ++ after))
  | titles {more line} : Text.Spaced ("Num:".toList :: more) line → Line .titles line
  | entry {entry number value size bind visibility line} :
      number.getLast? = some ':' → number ≠ "Num:".toList → Size.Written size entry.size.bytes →
      Text.Spaced
        (number :: value :: size :: entry.type :: bind :: visibility :: entry.index :: entry.name)
        line →
      Line (.entry entry) line

/-- The ways to write a listing. Lines of blanks may stand anywhere. -/
inductive Listing : List Item → List Char → Prop
  | nil : Listing [] []
  | blank {items gap ending text} : Text.IsGap gap → Text.LineEnding ending → Listing items text →
      Listing items (gap ++ ending ++ text)
  | line {item items line ending text} : item.Line line → Text.LineEnding ending →
      Listing items text → Listing (item :: items) (line ++ ending ++ text)

section Lines

open Text (IsGap IsWord Spaced LineEnding)

theorem Item.Line.noFeed {item : Item} {line : List Char} (isLine : item.Line line) :
    '\n' ∉ line := by
  cases isLine with
  | heading isGap noFeed noFeedAfter =>
    simp only [List.mem_append, not_or]
    exact ⟨isGap.noFeed, ⟨⟨by decide, noFeed⟩, by decide⟩, noFeedAfter⟩
  | titles spaced => exact spaced.noFeed
  | entry isNumber notTitle written spaced => exact spaced.noFeed

/-- The dynamic tables are those with a name that begins in the usual way; the quote that ends the
name is no part of this beginning. -/
theorem isPrefixOf_quoted (table after : List Char) :
    ".dynsym".toList.isPrefixOf (table ++ '\'' :: after) = ".dynsym".toList.isPrefixOf table := by
  have noQuote : ∀ (start : List Char), '\'' ∉ start → ∀ table,
      start.isPrefixOf (table ++ '\'' :: after) = start.isPrefixOf table := by
    intro start
    induction start with
    | nil => simp
    | cons c start inductionHypothesis =>
      intro noQuote table
      simp only [List.mem_cons, not_or] at noQuote
      cases table with
      | nil => simp [List.isPrefixOf, Ne.symm noQuote.1]
      | cons d table => simp [List.isPrefixOf, inductionHypothesis noQuote.2]
  exact noQuote _ (by decide) table

theorem headingStart_eq : headingStart = "Symbol table '".toList := by
  unfold headingStart
  rfl

/-- What follows the name in a heading begins with a quote, which ends the trimming. -/
theorem trim_heading (table after : List Char) :
    Text.trim ("Symbol table '".toList ++ table ++ "' contains".toList ++ after) =
      headingStart ++ (table ++ '\'' :: Text.trimEnd (" contains".toList ++ after)) := by
  have first : "Symbol table '".toList = 'S' :: "ymbol table '".toList := by decide
  have quoted : "' contains".toList = '\'' :: " contains".toList := by decide
  have letter : Text.isBlank 'S' = false := by decide
  have quote : Text.isBlank '\'' = false := by decide
  rw [headingStart_eq, quoted, List.append_assoc _ (_ :: _), List.cons_append, ← List.append_assoc,
    ← Text.trimEnd_append_cons _ quote, first]
  exact Text.trim_cons_of_not_blank letter _

theorem heading?_heading {before : List Char} (isGap : IsGap before) (table after : List Char) :
    heading? (Text.trim
      (before ++ ("Symbol table '".toList ++ table ++ "' contains".toList ++ after))) =
      some (".dynsym".toList.isPrefixOf table) := by
  have name := Text.afterStart?_eq_some_iff.mpr (rfl : headingStart ++ (table ++ '\'' ::
    Text.trimEnd (" contains".toList ++ after)) = _)
  rw [Text.trim_gap_append fun c inside => (isGap c inside).1, trim_heading, heading?, name,
    Option.map_some, isPrefixOf_quoted]

theorem heading?_eq_none {line : List Char}
    (first : (Text.words line).head? ≠ some "Symbol".toList) : heading? line = none := by
  rw [heading?, Option.map_eq_none_iff]
  cases found : Text.afterStart? headingStart line with
  | none => rfl
  | some rest =>
    exfalso
    have isHeading : line = "Symbol".toList ++ (" table '".toList ++ rest) := by
      rw [Text.afterStart?_eq_some_iff.mp found, ← List.append_assoc]
      rfl
    have isWord : IsWord "Symbol".toList := by decide
    have ends : ∀ c ∈ (" table '".toList ++ rest).head?, Text.isBlank c = true := by
      intro c head
      cases head
      decide
    rw [isHeading, Text.words_word_append isWord ends] at first
    exact first rfl

theorem record?_entry {line number value size bind visibility : List Char} {entry : Entry}
    (words : Text.words line =
      number :: value :: size :: entry.type :: bind :: visibility :: entry.index :: entry.name)
    (isNumber : number.getLast? = some ':') (notTitle : number ≠ "Num:".toList)
    (written : Size.Written size entry.size.bytes) :
    record? line = if entry.name = [] then none else some entry.record := by
  have isEntry : ¬(number = "Num:".toList ∨ number.getLast? ≠ some ':') := by
    simp only [not_or, ne_eq, not_not]
    exact ⟨notTitle, isNumber⟩
  unfold record? parseLine Entry.record
  rw [words]
  simp only [if_neg isEntry]
  cases entry.name with
  | nil => rfl
  | cons first more => simp only [Size.parse_of_written written, reduceCtorEq, if_false, nameOf]

theorem record?_titles {line : List Char} {more : List (List Char)}
    (words : Text.words line = "Num:".toList :: more) : record? line = none := by
  unfold record? parseLine
  rw [words]
  simp only [true_or, if_true]

theorem record?_blank {line : List Char} (words : Text.words line = []) : record? line = none := by
  unfold record? parseLine
  rw [words]

end Lines

namespace Tables

def prepend (inDynamic : Bool) (entries : List Entry) (tables : Tables) : Tables :=
  entries.foldr (fun entry => cons inDynamic entry.record) tables

def ofItems (inDynamic : Bool) : List Item → Tables
  | [] => empty
  | item :: rest => prepend inDynamic item.named (ofItems (item.mode inDynamic) rest)

end Tables

section Reading

variable (inDynamic : Bool)

theorem ofLines_heading {line : List Char} {dynamic : Bool}
    (isHeading : heading? (Text.trim line) = some dynamic) (rest : List (List Char)) :
    Tables.ofLines inDynamic (line :: rest) = Tables.ofLines dynamic rest := by
  rw [Tables.ofLines, isHeading]

/-- A line that is no heading leaves the kind of the table as it is. -/
theorem ofLines_other {line : List Char} (first : (Text.words line).head? ≠ some "Symbol".toList)
    {record : Option SymbolRecord} (isRecord : record? (Text.trim line) = record)
    (rest : List (List Char)) :
    Tables.ofLines inDynamic (line :: rest) =
      record.elim id (Tables.cons inDynamic) (Tables.ofLines inDynamic rest) := by
  have other : heading? (Text.trim line) = none := by
    apply heading?_eq_none
    rwa [Text.words_trim]
  rw [Tables.ofLines, other, isRecord]
  cases record <;> rfl

theorem ofLines_blank {line : List Char} (words : Text.words line = [])
    (rest : List (List Char)) :
    Tables.ofLines inDynamic (line :: rest) = Tables.ofLines inDynamic rest := by
  have first : (Text.words line).head? ≠ some "Symbol".toList := by simp [words]
  have none := record?_blank ((Text.words_trim line).trans words)
  exact ofLines_other inDynamic first none rest

/-- A line is read as what it was written for, also if blanks at its end came off. -/
theorem ofLines_line {item : Item} {line read : List Char} (isLine : item.Line line)
    (same : Text.trim read = Text.trim line) (rest : List (List Char)) :
    Tables.ofLines inDynamic (read :: rest) =
      Tables.prepend inDynamic item.named (Tables.ofLines (item.mode inDynamic) rest) := by
  have words : Text.words (Text.trim read) = Text.words line := by rw [same, Text.words_trim]
  have ownWords := (Text.words_trim read).symm.trans words
  cases isLine with
  | @heading _ table after isGap noFeed noFeedAfter =>
    have isHeading := heading?_heading isGap table after
    rw [← same] at isHeading
    exact ofLines_heading inDynamic isHeading rest
  | titles spaced =>
    rw [Text.words_of_spaced spaced] at words ownWords
    have first : (Text.words read).head? ≠ some "Symbol".toList := by
      rw [ownWords, List.head?_cons]
      decide
    exact ofLines_other inDynamic first (record?_titles words) rest
  | @entry entry number _ _ _ _ _ isNumber notTitle written spaced =>
    rw [Text.words_of_spaced spaced] at words ownWords
    have first : (Text.words read).head? ≠ some "Symbol".toList := by
      rw [ownWords]
      intro isHeading
      rw [Option.some.inj isHeading] at isNumber
      exact absurd isNumber (by decide)
    rw [ofLines_other inDynamic first (record?_entry words isNumber notTitle written) rest]
    by_cases nameless : entry.name = []
    · simp only [Item.named, if_pos nameless]
      rfl
    · simp only [Item.named, if_neg nameless]
      rfl

theorem ofLines_listing {items : List Item} {text : List Char} (listing : Listing items text) :
    Tables.ofLines inDynamic (Text.lines text) = Tables.ofItems inDynamic items := by
  induction listing generalizing inDynamic with
  | nil => rfl
  | blank isGap isEnding listing inductionHypothesis =>
    obtain ⟨read, apart, same⟩ := Text.lines_append_ending isGap.noFeed isEnding _
    have none : Text.words read = [] := by
      rw [← Text.words_trim, same, Text.words_trim, Text.words_of_spaced (.nil isGap)]
    rw [apart, ofLines_blank inDynamic none, inductionHypothesis]
  | line isLine isEnding listing inductionHypothesis =>
    obtain ⟨read, apart, same⟩ := Text.lines_append_ending isLine.noFeed isEnding _
    rw [apart, ofLines_line inDynamic isLine same, inductionHypothesis, Tables.ofItems]

theorem prepend_eq (entries : List Entry) (tables : Tables) :
    tables.prepend inDynamic entries =
      if inDynamic then { tables with dynamic := entries.map Entry.record ++ tables.dynamic }
      else { tables with ordinary := entries.map Entry.record ++ tables.ordinary } := by
  induction entries with
  | nil => cases inDynamic <;> rfl
  | cons entry entries inductionHypothesis =>
    rw [Tables.prepend, List.foldr_cons, ← Tables.prepend, inductionHypothesis, Tables.cons]
    cases inDynamic <;> rfl

theorem ofItems_entries (entries : List Entry) (rest : List Item) :
    Tables.ofItems inDynamic (entries.map .entry ++ rest) =
      (Tables.ofItems inDynamic rest).prepend inDynamic (entries.filter (·.name ≠ [])) := by
  induction entries with
  | nil => rfl
  | cons entry entries inductionHypothesis =>
    rw [List.map_cons, List.cons_append, Tables.ofItems, Item.mode, inductionHypothesis]
    by_cases nameless : entry.name = []
    · rw [Item.named, if_pos nameless, List.filter_cons_of_neg (by simpa using nameless)]
      rfl
    · rw [Item.named, if_neg nameless, List.filter_cons_of_pos (by simpa using nameless)]
      rfl

/-- A table brings its named entries, to the tables of its kind. -/
theorem ofItems_table (table : Table) (rest : List Item) :
    Tables.ofItems inDynamic (table.items ++ rest) =
      (Tables.ofItems table.isDynamic rest).prepend table.isDynamic table.named :=
  ofItems_entries table.isDynamic table.entries rest

theorem ofItems_tables (tables : List Table) :
    Tables.ofItems inDynamic (tables.flatMap Table.items) =
      ⟨(namedOrdinary tables).map Entry.record, (namedDynamic tables).map Entry.record⟩ := by
  induction tables generalizing inDynamic with
  | nil => rfl
  | cons table tables inductionHypothesis =>
    rw [List.flatMap_cons, ofItems_table, inductionHypothesis, prepend_eq]
    cases kind : table.isDynamic <;> simp [namedOrdinary, namedDynamic, kind]

/-- The tables of a listing come back entry by entry. -/
theorem ofLines_tables {tables : List Table} {text : List Char}
    (listing : Listing (tables.flatMap Table.items) text) :
    Tables.ofLines false (Text.lines text) =
      ⟨(namedOrdinary tables).map Entry.record, (namedDynamic tables).map Entry.record⟩ :=
  (ofLines_listing false listing).trans (ofItems_tables false tables)

/-- Dynamic tables count only if no other table has an entry with a name. -/
theorem parse_listing {tables : List Table} {text : List Char}
    (listing : Listing (tables.flatMap Table.items) text) :
    parse text =
      if namedOrdinary tables = [] then (namedDynamic tables).map Entry.record
      else (namedOrdinary tables).map Entry.record := by
  rw [parse, ofLines_tables listing, Tables.records]
  simp only [List.isEmpty_iff, List.map_eq_nil_iff]

/-- A function in each of two tables, behind an entry without a name. The one in the ordinary table
has the given index. -/
def sampleTables (index : String) : List Table :=
  [⟨".dynsym".toList,
      [⟨0, "NOTYPE".toList, "UND".toList, []⟩,
        ⟨.clamp 16, "FUNC".toList, "1".toList, ["puts".toList]⟩]⟩,
    ⟨".symtab".toList,
      [⟨0, "NOTYPE".toList, "UND".toList, []⟩,
        ⟨.clamp 8, "FUNC".toList, index.toList, ["memcpy".toList]⟩]⟩]

/-- The tables in a listing with both line endings and with a blank line. -/
def sampleListing (index : String) : List Char :=
  "Symbol table '.dynsym' contains 2 entries:".toList ++ ['\n'] ++
  ("   Num:    Value  Size".toList ++ ['\n'] ++
  ("0: 0 0 NOTYPE LOCAL DEFAULT UND".toList ++ ['\n'] ++
  ("\t1: 0 0x10 FUNC GLOBAL DEFAULT 1 puts".toList ++ ['\n'] ++
  ("\t".toList ++ ['\r', '\n'] ++
  (" Symbol table '.symtab' contains 2 entries:".toList ++ ['\r', '\n'] ++
  ("   Num:    Value  Size".toList ++ ['\r', '\n'] ++
  ("0: 0 0 NOTYPE LOCAL DEFAULT UND".toList ++ ['\r', '\n'] ++
  (("1: 0 08 FUNC GLOBAL DEFAULT ".toList ++ index.toList ++ "  memcpy".toList) ++ ['\n'] ++
    []))))))))

theorem listing_sample {index : String} (isIndex : index = "UND" ∨ index = "1") :
    Listing ((sampleTables index).flatMap Table.items) (sampleListing index) := by
  have zero : Size.Written "0".toList 0 := .decimal (.digit (.of_lt 0 (by decide)))
  have eight : Size.Written "08".toList 8 :=
    .decimal (.append (.digit (.of_lt 0 (by decide))) (.of_lt 8 (by decide)))
  have sixteen : Size.Written "0x10".toList 16 :=
    .hexadecimal (.inl rfl) (.append (.digit (.of_lt 1 (by decide))) (.of_lt 0 (by decide)))
  have dynamicHeading : "Symbol table '.dynsym' contains 2 entries:".toList =
      [] ++ ("Symbol table '".toList ++ ".dynsym".toList ++ "' contains".toList ++
        " 2 entries:".toList) := by decide
  have ordinaryHeading : " Symbol table '.symtab' contains 2 entries:".toList =
      [' '] ++ ("Symbol table '".toList ++ ".symtab".toList ++ "' contains".toList ++
        " 2 entries:".toList) := by decide
  have titles : Text.Spaced ["Num:".toList, "Value".toList, "Size".toList]
      "   Num:    Value  Size".toList := Text.spaced_of_words (by decide) (by decide)
  have nameless : Text.Spaced
      ["0:".toList, "0".toList, "0".toList, "NOTYPE".toList, "LOCAL".toList, "DEFAULT".toList,
        "UND".toList]
      "0: 0 0 NOTYPE LOCAL DEFAULT UND".toList := Text.spaced_of_words (by decide) (by decide)
  have puts : Text.Spaced
      ["1:".toList, "0".toList, "0x10".toList, "FUNC".toList, "GLOBAL".toList, "DEFAULT".toList,
        "1".toList, "puts".toList]
      "\t1: 0 0x10 FUNC GLOBAL DEFAULT 1 puts".toList :=
    Text.spaced_of_words (by decide) (by decide)
  have memcpy : Text.Spaced
      ["1:".toList, "0".toList, "08".toList, "FUNC".toList, "GLOBAL".toList, "DEFAULT".toList,
        index.toList, "memcpy".toList]
      ("1: 0 08 FUNC GLOBAL DEFAULT ".toList ++ index.toList ++ "  memcpy".toList) := by
    rcases isIndex with rfl | rfl <;> exact Text.spaced_of_words (by decide) (by decide)
  have table : '\n' ∉ ".symtab".toList := by decide
  unfold sampleListing
  rw [dynamicHeading, ordinaryHeading]
  refine .line (.heading ?_ ?_ ?_) .feed (.line (.titles titles) .feed
    (.line (.entry ?_ ?_ zero nameless) .feed (.line (.entry ?_ ?_ sixteen puts) .feed
    (.blank ?_ .returnFeed (.line (.heading ?_ table ?_) .returnFeed
    (.line (.titles titles) .returnFeed (.line (.entry ?_ ?_ zero nameless) .returnFeed
    (.line (.entry ?_ ?_ eight memcpy) .feed .nil))))))))
  all_goals decide

/-- Neither the entries without a name count nor the dynamic table beside the ordinary one. -/
theorem parse_listing_sample :
    Listing ((sampleTables "1").flatMap Table.items) (sampleListing "1") ∧
      parse (sampleListing "1") = [⟨"memcpy", .clamp 8, .function⟩] := by
  have listing := listing_sample (.inr rfl)
  exact ⟨listing, (parse_listing listing).trans (by decide)⟩

end Reading

end SymbolFootprint.Readelf
