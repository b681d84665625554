import SymbolFootprint.Backend
import SymbolFootprint.Proofs.Fixture.RoundTrip
import SymbolFootprint.Proofs.Listing.Tables

/-!
The same symbol tables, once in an image and once in a listing of it.

Reading the image leaves out the undefined symbols and then chooses a table (`InImage.records`).
Reading the listing chooses a table by all of its entries, and nothing leaves out the undefined ones
(`InListing.parse`). So the two agree on the records that take part in the totals if no undefined symbol
has a size to count, and if no table is chosen for the sake of undefined symbols alone
(`backends_agree_iff`). An undefined symbol with a size is counted by one of them only
(`backends_differ_sample`).
-/

namespace SymbolFootprint

/-- An entry of a symbol table, however it is stored. -/
structure TableEntry where
  name : String
  size : Size
  type : Nat
  sectionIndex : Nat
  isWord : Text.IsWord name.toList
  noZero : '\x00' ∉ name.toList

namespace TableEntry

def record (entry : TableEntry) : SymbolRecord :=
  ⟨entry.name, entry.size, .ofElfType entry.type⟩

/-- Is the symbol defined in the file itself? -/
def defined (entry : TableEntry) : Bool :=
  entry.sectionIndex ≠ 0

/-- A symbol of an image, with its name among the given strings, is the entry. -/
structure StoredAs (file : ByteArray) (names : Option StringArea) (entry : TableEntry)
    (symbol : Elf.Symbol) : Prop where
  name : ∃ start strings, names = some ⟨start, start + strings.length⟩ ∧
    RunAt file.data.toList start strings ∧
    RunAt strings symbol.name (Utf8.encode entry.name.toList ++ [0])
  size : symbol.size = entry.size.bytes
  type : symbol.info % 16 = entry.type
  sectionIndex : symbol.sectionIndex = entry.sectionIndex

/-- The columns of a listing are those of the entry. -/
structure ListedAs (entry : TableEntry) (listed : Readelf.Entry) : Prop where
  name : listed.name = [entry.name.toList]
  size : listed.size = entry.size
  object : listed.type = "OBJECT".toList ↔ entry.type = 1
  function : listed.type = "FUNC".toList ↔ entry.type = 2
  indirect : listed.type = "IFUNC".toList ↔ entry.type = 10
  undefined : listed.index = "UND".toList ↔ entry.sectionIndex = 0

end TableEntry

structure SymbolTables where
  symbols : List TableEntry
  dynamic : List TableEntry

namespace SymbolTables

def Holds (file : ByteArray) (table : Elf.SymbolTable) (entries : List TableEntry) : Prop :=
  List.Forall₂ (TableEntry.StoredAs file table.names) entries (table.symbols.drop 1)

inductive InImage (tables : SymbolTables) (file : ByteArray) : Prop
  | intro {start wide elf} : window? file 0 16 = some start →
      Format.ofStart start = .ok (.elf wide) → Elf.parse file wide = .ok elf →
      Holds file elf.symbols tables.symbols → Holds file elf.dynamicSymbols tables.dynamic →
      InImage tables file

/-- The listing shows the entries, and any entries without a name. -/
inductive InListing (tables : SymbolTables) (text : List Char) : Prop
  | intro {printed : List Readelf.Table} :
      Readelf.Listing (printed.flatMap Readelf.Table.items) text →
      List.Forall₂ TableEntry.ListedAs tables.symbols (Readelf.namedOrdinary printed) →
      List.Forall₂ TableEntry.ListedAs tables.dynamic (Readelf.namedDynamic printed) →
      InListing tables text

/-- The entries to count if undefined symbols do not matter. -/
def chosenDefined (tables : SymbolTables) : List TableEntry :=
  if tables.symbols.filter TableEntry.defined = [] then tables.dynamic.filter TableEntry.defined
  else tables.symbols.filter TableEntry.defined

/-- The entries to count if undefined symbols matter like others. -/
def chosen (tables : SymbolTables) : List TableEntry :=
  if tables.symbols = [] then tables.dynamic else tables.symbols

end SymbolTables

section Image

variable {file : ByteArray}

theorem TableEntry.StoredAs.record? {names : Option StringArea} {entry : TableEntry}
    {symbol : Elf.Symbol} (stored : entry.StoredAs file names symbol) :
    Elf.Symbol.record? file names symbol = if entry.defined then some entry.record else none := by
  obtain ⟨⟨start, strings, rfl, stands, within⟩, size, type, sectionIndex⟩ := stored
  rw [← Fixture.nameBytes_eq_encode] at within
  have nonempty : entry.name ≠ "" := by
    intro empty
    exact entry.isWord.nonempty (String.toList_eq_nil_iff.mpr empty)
  have shown := Fixture.nameAt?_of_runAt entry.noZero stands within
  rw [if_neg nonempty] at shown
  rw [Elf.Symbol.record?, shown, size, type, sectionIndex, Size.clamp_bytes]
  by_cases index : entry.sectionIndex = 0
  · simp [TableEntry.defined, index]
  · simp [TableEntry.defined, index, TableEntry.record]

theorem SymbolTables.Holds.records {table : Elf.SymbolTable} {entries : List TableEntry}
    (holds : SymbolTables.Holds file table entries) :
    table.records file = (entries.filter TableEntry.defined).map TableEntry.record := by
  unfold Elf.SymbolTable.records
  unfold Holds at holds
  generalize table.symbols.drop 1 = symbols at holds ⊢
  induction holds with
  | nil => rfl
  | @cons entry symbol entries symbols stored _ inductionHypothesis =>
    rw [List.filterMap_cons, stored.record?, inductionHypothesis]
    cases defined : entry.defined with
    | true =>
      rw [List.filter_cons_of_pos defined]
      rfl
    | false =>
      rw [List.filter_cons_of_neg (by simp [defined])]
      rfl

theorem SymbolTables.InImage.contents_records {tables : SymbolTables}
    (inImage : tables.InImage file) (reader : Foreign.Reader) :
    (Contents.ofFile reader file).map Contents.records =
      .ok (tables.chosenDefined.map TableEntry.record) := by
  obtain @⟨start, wide, elf, window, format, parsed, holds, holdsDynamic⟩ := inImage
  have recognized : Contents.ofFile reader file = .ok (elf.contents file) := by
    rw [Contents.ofFile, window]
    simp only [format, bind, Except.bind, parsed]
    rfl
  rw [recognized, Except.map, Contents.records, Elf.File.contents, holds.records,
    holdsDynamic.records, chosenDefined]
  simp only [List.isEmpty_iff, List.map_eq_nil_iff]
  split <;> rfl

theorem SymbolTables.InImage.records {tables : SymbolTables} (inImage : tables.InImage file)
    (machine : Machine) (settings : Backend.Settings) (path : Path) (reader : Foreign.Reader) :
    Backend.structured.records machine settings ⟨path, file, reader⟩ =
      .ok (tables.chosenDefined.map TableEntry.record) := by
  rw [Backend.records_structured, Backend.read, Backend.Target.contents, inImage.contents_records]
  rfl

end Image

section Listing

theorem SymbolKind.ofElfType_eq (type : Nat) :
    ofElfType type =
      if type = 2 ∨ type = 10 then .function else if type = 1 then .object else .other := by
  by_cases function : type = 2 ∨ type = 10
  · rw [if_pos function]
    rcases function with rfl | rfl <;> rfl
  · simp only [not_or] at function
    rw [if_neg (not_or.mpr function)]
    by_cases object : type = 1
    · rw [if_pos object, object]
      rfl
    · rw [if_neg object, ofElfType]
      · exact object
      · exact function.1
      · exact function.2

theorem TableEntry.ListedAs.kind {entry : TableEntry} {listed : Readelf.Entry}
    (listedAs : entry.ListedAs listed) :
    SymbolKind.ofReadelfType (String.ofList listed.type) = .ofElfType entry.type := by
  have word {text : String} : String.ofList listed.type = text ↔ listed.type = text.toList := by
    rw [← String.toList_inj, String.toList_ofList]
  rw [SymbolKind.ofReadelfType, SymbolKind.ofElfType_eq]
  simp only [List.mem_cons, List.not_mem_nil, or_false, word, listedAs.function, listedAs.indirect,
    listedAs.object]

theorem TableEntry.ListedAs.record {entry : TableEntry} {listed : Readelf.Entry}
    (listedAs : entry.ListedAs listed) : listed.record = entry.record := by
  rw [Readelf.Entry.record, listedAs.kind, listedAs.name, listedAs.size, TableEntry.record]
  simp [Text.join]

theorem map_record_of_listed {entries : List TableEntry} {listed : List Readelf.Entry}
    (listedAs : List.Forall₂ TableEntry.ListedAs entries listed) :
    listed.map Readelf.Entry.record = entries.map TableEntry.record := by
  induction listedAs with
  | nil => rfl
  | cons first _ inductionHypothesis =>
    rw [List.map_cons, List.map_cons, first.record, inductionHypothesis]

theorem SymbolTables.InListing.parse {tables : SymbolTables} {text : List Char}
    (inListing : tables.InListing text) :
    Readelf.parse text = tables.chosen.map TableEntry.record := by
  obtain @⟨printed, listing, listed, listedDynamic⟩ := inListing
  rw [Readelf.parse, Readelf.ofLines_tables listing, Readelf.Tables.records,
    map_record_of_listed listed, map_record_of_listed listedDynamic, chosen]
  simp only [List.isEmpty_iff, List.map_eq_nil_iff]
  split <;> rfl

end Listing

def FileReport.totals (report : FileReport) : SizeTable × SizeTable × Nat :=
  (report.namespaces, report.types, report.symbolCount)

theorem FileReport.totals_ofSelection (demangler : Demangler) (rules : Rules)
    (target : Backend.Target) {first second : Selection}
    (same : first.records.filter SymbolRecord.attributable =
      second.records.filter SymbolRecord.attributable) :
    (ofSelection demangler rules target first).totals =
      (ofSelection demangler rules target second).totals := by
  simp only [totals, ofSelection, attributions, same]

section Agreement

namespace SymbolTables

/-- Is a table chosen for the sake of undefined symbols only where this changes no total? -/
def ChoiceAgrees (tables : SymbolTables) : Prop :=
  tables.symbols = [] ∨ (∃ entry ∈ tables.symbols, entry.defined = true) ∨
    ∀ entry ∈ tables.dynamic, entry.record.attributable = false

/-- Leaving out undefined symbols that do not take part in the totals changes nothing for them. -/
theorem filter_attributable_defined {entries : List TableEntry}
    (counted : ∀ entry ∈ entries, entry.record.attributable = true → entry.defined = true) :
    ((entries.filter TableEntry.defined).map TableEntry.record).filter SymbolRecord.attributable =
      (entries.map TableEntry.record).filter SymbolRecord.attributable := by
  rw [List.filter_map, List.filter_map, List.filter_filter]
  refine congrArg _ (List.filter_congr ?_)
  intro entry membership
  have own := counted entry membership
  cases attributable : entry.record.attributable <;> simp_all

theorem filter_attributable_eq_nil_iff {entries : List TableEntry} :
    (entries.map TableEntry.record).filter SymbolRecord.attributable = [] ↔
      ∀ entry ∈ entries, entry.record.attributable = false := by
  simp [List.filter_eq_nil_iff]

theorem chosen_agree_iff {tables : SymbolTables}
    (counted : ∀ entry ∈ tables.symbols ++ tables.dynamic,
      entry.record.attributable = true → entry.defined = true) :
    (tables.chosenDefined.map TableEntry.record).filter SymbolRecord.attributable =
        (tables.chosen.map TableEntry.record).filter SymbolRecord.attributable ↔
      tables.ChoiceAgrees := by
  have symbols := filter_attributable_defined fun entry inside =>
    counted entry (List.mem_append_left _ inside)
  have dynamic := filter_attributable_defined fun entry inside =>
    counted entry (List.mem_append_right _ inside)
  by_cases none : tables.symbols = []
  · simp only [chosenDefined, chosen, ChoiceAgrees, none, List.filter_nil, if_true, dynamic,
      true_or]
  · by_cases hidden : tables.symbols.filter TableEntry.defined = []
    · have undefined : ∀ entry ∈ tables.symbols, ¬entry.defined = true :=
        List.filter_eq_nil_iff.mp hidden
      have noDefined : ¬∃ entry ∈ tables.symbols, entry.defined = true := by
        rintro ⟨entry, membership, defined⟩
        exact undefined entry membership defined
      rw [hidden, List.map_nil, List.filter_nil] at symbols
      rw [chosenDefined, if_pos hidden, chosen, if_neg none, dynamic, ← symbols,
        filter_attributable_eq_nil_iff, ChoiceAgrees]
      simp only [none, noDefined, false_or]
    · have defined : ∃ entry ∈ tables.symbols, entry.defined = true := by
        obtain ⟨entry, membership⟩ := List.exists_mem_of_ne_nil _ hidden
        exact ⟨entry, List.mem_filter.mp membership⟩
      rw [chosenDefined, if_neg hidden, chosen, if_neg none, symbols, ChoiceAgrees]
      simp only [defined, true_or, or_true]

end SymbolTables

/-- Where no undefined symbol takes part in the totals, an image and a listing of it give the same
totals unless a table was chosen for the sake of undefined symbols. -/
theorem backends_agree_iff {tables : SymbolTables} {file : ByteArray} {text : List Char}
    (inImage : tables.InImage file) (inListing : tables.InListing text)
    (counted : ∀ entry ∈ tables.symbols ++ tables.dynamic,
      entry.record.attributable = true → entry.defined = true) :
    ∃ own, (∀ machine settings path reader,
        Backend.structured.records machine settings ⟨path, file, reader⟩ = .ok own) ∧
      (own.filter SymbolRecord.attributable =
          (Readelf.parse text).filter SymbolRecord.attributable ↔ tables.ChoiceAgrees) ∧
      (tables.ChoiceAgrees → ∀ demangler rules target failures otherFailures,
        (FileReport.ofSelection demangler rules target
            ⟨failures, some ⟨Backend.structured.name, own⟩⟩).totals =
          (FileReport.ofSelection demangler rules target
            ⟨otherFailures, some ⟨Backend.readelf.name, Readelf.parse text⟩⟩).totals) := by
  have agree := SymbolTables.chosen_agree_iff counted
  rw [inListing.parse]
  refine ⟨_, inImage.records, agree, ?_⟩
  intro choice demangler rules target failures otherFailures
  apply FileReport.totals_ofSelection
  exact agree.mpr choice

end Agreement

section Sample

open ByteOrder

def shortSymbol (name size info index : Nat) : List UInt8 :=
  littleBytes 4 name ++ littleBytes 4 0 ++ littleBytes 4 size ++ littleBytes 2 info ++
    littleBytes 2 index

def shortSection (type offset size link : Nat) : List UInt8 :=
  [0, type, 0, 0, offset, size, link, 0, 1, 0].flatMap (littleBytes 4)

/-- Two functions, one in each table. The one in the symbol table has the given section index. -/
def sampleTables (index : Nat) : SymbolTables where
  symbols := [⟨"memcpy", .clamp 8, 2, index, by decide, by decide⟩]
  dynamic := [⟨"puts", .clamp 16, 2, 1, by decide, by decide⟩]

def sampleStrings : List UInt8 :=
  [0] ++ Utf8.encode "memcpy".toList ++ [0] ++ Utf8.encode "puts".toList ++ [0]

def sampleFront (index : Nat) : List UInt8 :=
  [0x7F, 0x45, 0x4C, 0x46, 1, 1, 1, 0, 0, 0, 0, 0, 0, 0, 0, 0, 3, 0, 3, 0] ++
    [1, 0, 0, 129, 0].flatMap (littleBytes 4) ++ [52, 0, 0, 40, 4, 3].flatMap (littleBytes 2) ++
    (shortSymbol 0 0 0 0 ++ shortSymbol 1 8 0x12 index) ++
    (shortSymbol 0 0 0 0 ++ shortSymbol 8 16 0x12 1)

def sampleSections : List UInt8 :=
  shortSection 0 0 0 0 ++ shortSection 2 52 32 3 ++ shortSection 11 84 32 3 ++
    shortSection 3 116 13 0

def sampleImage (index : Nat) : ByteArray :=
  ⟨(sampleFront index ++ sampleStrings ++ sampleSections).toArray⟩

def sampleElf (index : Nat) : Elf.File where
  sections :=
    [⟨0, 0, 0, 0, 0, 0⟩, ⟨0, 2, 52, 32, 3, 0⟩, ⟨0, 11, 84, 32, 3, 0⟩, ⟨0, 3, 116, 13, 0, 0⟩]
  names := some ⟨116, 129⟩
  symbols := ⟨[⟨0, 0, 0, 0⟩, ⟨1, 0x12, index, 8⟩], some ⟨116, 129⟩⟩
  dynamicSymbols := ⟨[⟨0, 0, 0, 0⟩, ⟨8, 0x12, 1, 16⟩], some ⟨116, 129⟩⟩

theorem parse_sampleImage {index : Nat} (small : index < 2) :
    Elf.parse (sampleImage index) false = .ok (sampleElf index) := by
  have read : ∀ index < 2,
      (Elf.parse (sampleImage index) false).toOption = some (sampleElf index) := by
    unfold Elf.parse Elf.readTables Elf.readSections Elf.readNames Elf.readSymbolTable
      Elf.readSymbols Elf.checkPrograms Elf.sectionCount Elf.nameTableIndex Elf.programCount
      Elf.sectionZero Elf.holdsEntries table?
    simp only [window?_eq]
    decide +kernel
  cases parsed : Elf.parse (sampleImage index) false with
  | error fault =>
    have none := read index small
    rw [parsed] at none
    cases none
  | ok elf =>
    have own := read index small
    rw [parsed] at own
    exact congrArg _ (Option.some.inj own)

theorem inImage_sample {index : Nat} (small : index < 2) :
    (sampleTables index).InImage (sampleImage index) := by
  have strings : RunAt (sampleImage index).data.toList 116 sampleStrings :=
    ⟨sampleFront index, sampleSections, rfl, rfl⟩
  have start : window? (sampleImage index) 0 16 = some ((sampleFront index).take 16) := by
    rw [window?_eq]
    rfl
  have memcpy : RunAt sampleStrings 1 (Utf8.encode "memcpy".toList ++ [0]) :=
    ⟨[0], Utf8.encode "puts".toList ++ [0], by decide, rfl⟩
  have puts : RunAt sampleStrings 8 (Utf8.encode "puts".toList ++ [0]) :=
    ⟨[0] ++ Utf8.encode "memcpy".toList ++ [0], [], by decide, by decide⟩
  have function : 0x12 % 16 = 2 := by decide
  refine .intro start rfl (parse_sampleImage small) (.cons ?_ .nil) (.cons ?_ .nil)
  · exact ⟨⟨116, sampleStrings, rfl, strings, memcpy⟩, rfl, function, rfl⟩
  · exact ⟨⟨116, sampleStrings, rfl, strings, puts⟩, rfl, function, rfl⟩

theorem inListing_sample {index : Nat} {word : String}
    (isIndex : index = 0 ∧ word = "UND" ∨ index = 1 ∧ word = "1") :
    (sampleTables index).InListing (Readelf.sampleListing word) := by
  have isWord : word = "UND" ∨ word = "1" := isIndex.imp And.right And.right
  have undefined : word.toList = "UND".toList ↔ index = 0 := by
    rcases isIndex with ⟨rfl, rfl⟩ | ⟨rfl, rfl⟩ <;> decide
  have object : "FUNC".toList = "OBJECT".toList ↔ 2 = 1 := by decide
  have function : "FUNC".toList = "FUNC".toList ↔ 2 = 2 := by decide
  have indirect : "FUNC".toList = "IFUNC".toList ↔ 2 = 10 := by decide
  refine .intro (Readelf.listing_sample isWord) (.cons ?_ .nil) (.cons ?_ .nil)
  · exact ⟨rfl, rfl, object, function, indirect, undefined⟩
  · exact ⟨rfl, rfl, object, function, indirect, by decide⟩

/-- An undefined symbol with a size is left out of the records of an image, but not of those of a
listing. -/
theorem backends_differ_sample :
    (sampleTables 0).InImage (sampleImage 0) ∧
      (sampleTables 0).InListing (Readelf.sampleListing "UND") ∧
      (∀ machine settings path reader,
        (Backend.structured.records machine settings ⟨path, sampleImage 0, reader⟩).map
            (·.filter SymbolRecord.attributable) =
          .ok [⟨"puts", .clamp 16, .function⟩]) ∧
      (Readelf.parse (Readelf.sampleListing "UND")).filter SymbolRecord.attributable =
        [⟨"memcpy", .clamp 8, .function⟩] := by
  have inImage : (sampleTables 0).InImage (sampleImage 0) := inImage_sample (by decide)
  have inListing := inListing_sample (.inl ⟨rfl, rfl⟩)
  refine ⟨inImage, inListing, ?_, ?_⟩
  · intro machine settings path reader
    rw [inImage.records]
    rfl
  · rw [inListing.parse]
    rfl

theorem backends_agree_sample :
    (sampleTables 1).InImage (sampleImage 1) ∧
      (sampleTables 1).InListing (Readelf.sampleListing "1") ∧
      (∀ entry ∈ (sampleTables 1).symbols ++ (sampleTables 1).dynamic,
        entry.record.attributable = true → entry.defined = true) ∧
      ∃ own, (∀ machine settings path reader,
          Backend.structured.records machine settings ⟨path, sampleImage 1, reader⟩ = .ok own) ∧
        own.filter SymbolRecord.attributable =
          (Readelf.parse (Readelf.sampleListing "1")).filter SymbolRecord.attributable ∧
        ∀ demangler rules target failures otherFailures,
          (FileReport.ofSelection demangler rules target
              ⟨failures, some ⟨Backend.structured.name, own⟩⟩).totals =
            (FileReport.ofSelection demangler rules target
              ⟨otherFailures, some ⟨Backend.readelf.name,
                Readelf.parse (Readelf.sampleListing "1")⟩⟩).totals := by
  have inImage : (sampleTables 1).InImage (sampleImage 1) := inImage_sample (by decide)
  have inListing := inListing_sample (.inr ⟨rfl, rfl⟩)
  have counted : ∀ entry ∈ (sampleTables 1).symbols ++ (sampleTables 1).dynamic,
      entry.record.attributable = true → entry.defined = true := by decide
  have choice : (sampleTables 1).ChoiceAgrees := .inr (.inl (by decide))
  obtain ⟨own, records, agree, totals⟩ := backends_agree_iff inImage inListing counted
  exact ⟨inImage, inListing, counted, own, records, agree.mpr choice, totals choice⟩

end Sample

end SymbolFootprint
