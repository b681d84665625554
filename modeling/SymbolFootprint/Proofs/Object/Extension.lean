import SymbolFootprint.Object.Recognition
import SymbolFootprint.Proofs.Bytes.Beginnings

/-!
Object files with more bytes behind them.

Each step of the reader looks at windows of the file, so what it makes of a file it also makes of a
longer one that begins with the same bytes (`Kept`, `Elf.parse_kept`). Names are the exception: an
area of strings that ends behind a file shows no name there, but may show one in a longer file.
Where all areas of strings end within the file, a longer file shows the same
(`Contents.ofFile_of_begins`).
-/

namespace SymbolFootprint

/-- What the first of two readings gives, the second one gives as well. -/
def Kept {ε α : Type} (first second : Except ε α) : Prop :=
  ∀ value, first = .ok value → second = .ok value

namespace Kept

variable {ε α β : Type} {first second : Except ε α}

theorem refl (reading : Except ε α) : Kept reading reading :=
  fun _ success => success

theorem of_error (fault : ε) : Kept (.error fault) second := by
  intro value success
  cases success

theorem bind {next later : α → Except ε β} (kept : Kept first second)
    (keptNext : ∀ value, Kept (next value) (later value)) :
    Kept (first >>= next) (second >>= later) := by
  cases reading : first with
  | error fault => exact of_error fault
  | ok value =>
    rw [kept value reading]
    exact keptNext value

theorem ite {condition : Prop} [Decidable condition] {other otherLater : Except ε α}
    (kept : Kept first second) (keptOther : Kept other otherLater) :
    Kept (if condition then first else other) (if condition then second else otherLater) := by
  split
  · exact kept
  · exact keptOther

end Kept

namespace Elf

section Reading

variable {file longer : ByteArray} (begins : file.data.toList <+: longer.data.toList)
  (encoding : Encoding) (header : Header)

include begins

theorem sectionZero_kept :
    Kept (sectionZero file encoding header) (sectionZero longer encoding header) := by
  unfold sectionZero
  refine .ite (.refl _) (.ite (.refl _) ?_)
  cases shown : window? file header.sectionOffset encoding.sectionEntrySize with
  | none => exact .of_error _
  | some bytes =>
    rw [window?_eq_some_of_begins begins shown]
    exact .refl _

theorem programCount_kept :
    Kept (programCount file encoding header) (programCount longer encoding header) :=
  .ite (.refl _) (.bind (sectionZero_kept begins encoding header) fun _ => .refl _)

theorem checkPrograms_kept :
    Kept (checkPrograms file encoding header) (checkPrograms longer encoding header) := by
  refine .ite (.refl _) (.bind (programCount_kept begins encoding header) fun count => ?_)
  refine .ite (.refl _) (.ite (.refl _) ?_)
  cases shown : window? file header.programOffset (count * encoding.programEntrySize) with
  | none => exact .of_error _
  | some bytes =>
    rw [window?_eq_some_of_begins begins shown]
    exact .refl _

theorem sectionCount_kept :
    Kept (sectionCount file encoding header) (sectionCount longer encoding header) :=
  .ite (.refl _) (.bind (sectionZero_kept begins encoding header) fun _ => .refl _)

theorem readSections_kept :
    Kept (readSections file encoding header) (readSections longer encoding header) := by
  refine .ite (.refl _) (.bind (sectionCount_kept begins encoding header) fun count => ?_)
  refine .ite (.refl _) (.ite (.refl _) ?_)
  cases shown : table? file header.sectionOffset encoding.sectionEntrySize count with
  | none => exact .of_error _
  | some entries =>
    rw [table?_eq_some_of_begins begins shown]
    exact .refl _

theorem nameTableIndex_kept :
    Kept (nameTableIndex file encoding header) (nameTableIndex longer encoding header) :=
  .ite (.refl _) (.bind (sectionZero_kept begins encoding header) fun _ => .refl _)

theorem readNames_kept (sections : List Section) :
    Kept (readNames file encoding header sections) (readNames longer encoding header sections) :=
  .ite (.refl _) (.bind (nameTableIndex_kept begins encoding header) fun _ => .refl _)

theorem readSymbols_kept (s : Section) :
    Kept (readSymbols file encoding s) (readSymbols longer encoding s) := by
  refine .ite (.refl _) ?_
  cases shown : table? file s.offset encoding.symbolEntrySize
      (s.size / encoding.symbolEntrySize) with
  | none => exact .of_error _
  | some entries =>
    rw [table?_eq_some_of_begins begins shown]
    exact .refl _

omit encoding header in
theorem holdsEntries_of_begins {s : Section} {width : Nat}
    (holds : holdsEntries file s width = true) : holdsEntries longer s width = true := by
  unfold holdsEntries at holds ⊢
  rw [Bool.and_eq_true, Option.isSome_iff_exists] at holds ⊢
  obtain ⟨whole, bytes, shown⟩ := holds
  exact ⟨whole, bytes, window?_eq_some_of_begins begins shown⟩

theorem readSymbolTable_kept (sections : List Section) (type : Nat) :
    Kept (readSymbolTable file encoding sections type)
      (readSymbolTable longer encoding sections type) := by
  unfold readSymbolTable
  cases sections.zipIdx.find? (·.1.type = type) with
  | none => exact .refl _
  | some entry =>
    refine .bind (readSymbols_kept begins encoding entry.1) fun symbols => ?_
    refine .bind (.refl _) fun names => ?_
    intro table success
    dsimp only at success ⊢
    split at success
    · next hold =>
      rw [List.all_eq_true] at hold
      rw [if_pos, ← success]
      rw [List.all_eq_true]
      exact fun t membership => holdsEntries_of_begins begins (hold t membership)
    · cases success

theorem readTables_kept :
    Kept (readTables file encoding header) (readTables longer encoding header) :=
  .bind (checkPrograms_kept begins encoding header) fun _ =>
  .bind (readSections_kept begins encoding header) fun sections =>
  .bind (readNames_kept begins encoding header sections) fun _ =>
  .bind (readSymbolTable_kept begins encoding sections _) fun _ =>
  .bind (readSymbolTable_kept begins encoding sections _) fun _ => .refl _

omit encoding header in
theorem parse_kept (wide : Bool) : Kept (parse file wide) (parse longer wide) := by
  unfold parse
  cases shown : window? file 0 (Encoding.headerSize ⟨wide, .little⟩) with
  | none => exact .of_error _
  | some start =>
    rw [window?_eq_some_of_begins begins shown]
    exact .bind (.refl _) fun encoding => readTables_kept begins encoding _

end Reading

section Names

/-- Do the strings of an area, if there is one, stand in a file as a whole? -/
def Inside (file : ByteArray) (names : Option StringArea) : Prop :=
  ∀ area ∈ names, area.stop ≤ file.size

/-- All strings for names stand in the file. -/
structure File.NamesInside (elf : File) (file : ByteArray) : Prop where
  sections : Inside file elf.names
  symbols : Inside file elf.symbols.names
  dynamicSymbols : Inside file elf.dynamicSymbols.names

variable {file longer : ByteArray} (begins : file.data.toList <+: longer.data.toList)

include begins

theorem nameAt?_of_begins {names : Option StringArea} (inside : Inside file names) :
    nameAt? longer names = nameAt? file names := by
  funext offset
  cases names with
  | none => rfl
  | some area =>
    have strings := string?_of_begins begins (inside area rfl) offset
    simp only [nameAt?, bind, Option.bind, strings]

theorem SymbolTable.records_of_begins {table : SymbolTable} (inside : Inside file table.names) :
    table.records longer = table.records file := by
  have entries : Symbol.record? longer table.names = Symbol.record? file table.names := by
    funext symbol
    rw [Symbol.record?, Symbol.record?, nameAt?_of_begins begins inside]
  rw [SymbolTable.records, SymbolTable.records, entries]

theorem File.contents_of_begins {elf : File} (inside : elf.NamesInside file) :
    elf.contents longer = elf.contents file := by
  have rows : Section.row? longer elf.names = Section.row? file elf.names := by
    funext s
    rw [Section.row?, Section.row?, nameAt?_of_begins begins inside.sections]
  rw [File.contents, File.contents, rows, SymbolTable.records_of_begins begins inside.symbols,
    SymbolTable.records_of_begins begins inside.dynamicSymbols]

end Names

end Elf

/-- A file of which all names stand within it shows nothing else with more bytes behind it. -/
theorem Contents.ofFile_of_begins {file longer : ByteArray}
    (begins : file.data.toList <+: longer.data.toList) {start : List UInt8} {wide : Bool}
    {elf : Elf.File} (shown : window? file 0 16 = some start)
    (format : Format.ofStart start = .ok (.elf wide)) (parsed : Elf.parse file wide = .ok elf)
    (inside : elf.NamesInside file) (reader : Foreign.Reader) :
    Contents.ofFile reader longer = Contents.ofFile reader file := by
  have parsedLonger := Elf.parse_kept begins wide elf parsed
  rw [Contents.ofFile, Contents.ofFile, shown, window?_eq_some_of_begins begins shown]
  simp only [format, parsed, parsedLonger, bind, Except.bind, Except.map,
    Elf.File.contents_of_begins begins inside]

end SymbolFootprint
