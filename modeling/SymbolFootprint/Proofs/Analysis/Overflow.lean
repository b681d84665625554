import SymbolFootprint.Analysis
import SymbolFootprint.Proofs.SizeTable.Overflow

/-!
When the analysis of a file ends at a sum that is too large.

Only the sizes of sections with a common name are added by a sum that may be checked. So the analysis
ends there exactly if sums are checked, and the file is recognized and has such sections that are
together too large for a count (`analyzeFile_eq_overflowed_iff`). A small object file is one that
does (`isOversized_image`).
-/

namespace SymbolFootprint

namespace Backend.Target

/-- The file is recognized, and its sections with a common name are too large together. -/
def IsOversized (target : Target) : Prop :=
  ∃ contents, target.contents = .ok contents ∧
    ∃ name, 2 ^ 64 ≤ SizeTable.exactUnder name contents.sections

theorem isOversized_iff {target : Target} :
    target.IsOversized ↔ FileReport.sectionsOverflow target.reader target.content = true := by
  unfold IsOversized FileReport.sectionsOverflow contents
  cases Contents.ofFile target.reader target.content with
  | error fault => simp
  | ok contents => simp [Contents.overflows, SizeTable.overflows_empty_iff]

theorem IsOversized.isOk {target : Target} (oversized : target.IsOversized) :
    target.contents.isOk = true := by
  obtain ⟨contents, recognized, _⟩ := oversized
  rw [recognized]
  rfl

end Backend.Target

/-- The analysis of the file ends at a checked sum. -/
def Machine.Overflows (machine : Machine) (path : Path) : Prop :=
  machine.arithmetic = .checked ∧ ∃ content, machine.files.read path = .ok content ∧
    Backend.Target.IsOversized ⟨path, content, machine.reader⟩

section Outcomes

variable {arithmetic : Arithmetic} {target : Backend.Target}

theorem FileReport.aggregate_eq {demangler : Demangler} {rules : Rules} {selection : Selection}
    (fits : ¬(arithmetic = .checked ∧ target.IsOversized)) :
    aggregate arithmetic demangler rules target selection =
      .done (.ofSelection demangler rules target selection) := by
  rw [Backend.Target.isOversized_iff] at fits
  exact if_neg fits

theorem FileReport.aggregate_of_overflow {demangler : Demangler} {rules : Rules}
    {selection : Selection} (checked : arithmetic = .checked) (oversized : target.IsOversized) :
    aggregate arithmetic demangler rules target selection = .overflowed :=
  if_pos ⟨checked, Backend.Target.isOversized_iff.mp oversized⟩

namespace Analysis

variable {analysis : Analysis}

theorem conclude_of_overflow (checked : arithmetic = .checked) (oversized : target.IsOversized)
    (selection : Selection) : analysis.conclude arithmetic target selection = .overflowed := by
  rw [conclude, if_neg fun failed => failed.2 oversized.isOk,
    FileReport.aggregate_of_overflow checked oversized]

/-- A file whose sizes can be added comes to a report, or to the failures of all backends. -/
theorem conclude_eq (fits : ¬(arithmetic = .checked ∧ target.IsOversized)) (selection : Selection) :
    analysis.conclude arithmetic target selection =
      .done (if selection.found.isNone ∧ ¬target.contents.isOk then
          .error (.unrecognized target.path selection.failures)
        else .ok (.ofSelection analysis.demangler analysis.rules target selection)) := by
  unfold conclude
  split
  · rfl
  · rw [FileReport.aggregate_eq fits]

theorem conclude_eq_overflowed_iff {selection : Selection} :
    analysis.conclude arithmetic target selection = .overflowed ↔
      arithmetic = .checked ∧ target.IsOversized := by
  by_cases overflow : arithmetic = .checked ∧ target.IsOversized
  · exact iff_of_true (conclude_of_overflow overflow.1 overflow.2 selection) overflow
  · rw [conclude_eq overflow]
    exact iff_of_false (fun same => by cases same) overflow

theorem analyzeFile_eq_overflowed_iff (analysis : Analysis) {machine : Machine} {path : Path} :
    analysis.analyzeFile machine path = .overflowed ↔ machine.Overflows path := by
  unfold analyzeFile Machine.Overflows
  cases machine.files.read path with
  | error fault => simp
  | ok content => simpa [analyzeContent] using conclude_eq_overflowed_iff

end Analysis

end Outcomes

section Sample

open ByteOrder

def wideSection (name type offset size : Nat) : List UInt8 :=
  littleBytes 4 name ++ littleBytes 4 type ++ [0, 0, offset, size].flatMap (littleBytes 8) ++
    littleBytes 24 0

/-- An object file with two sections `.bss` of `2 ^ 63` bytes each, which take no room in it. -/
def oversizedImage : ByteArray :=
  let start : List UInt8 :=
    [0x7F, 0x45, 0x4C, 0x46, 2, 1, 1, 0, 0, 0, 0, 0, 0, 0, 0, 0, 1, 0, 62, 0, 1, 0, 0, 0] ++
      [0, 0, 64].flatMap (littleBytes 8) ++ littleBytes 4 0 ++
      [64, 0, 0, 64, 4, 3].flatMap (littleBytes 2)
  let sections := wideSection 0 0 0 0 ++ wideSection 1 8 0 (2 ^ 63) ++
    wideSection 1 8 0 (2 ^ 63) ++ wideSection 0 3 320 6
  let names : List UInt8 := [0, 0x2E, 0x62, 0x73, 0x73, 0]
  ⟨(start ++ sections ++ names).toArray⟩

theorem ofFile_oversizedImage (reader : Foreign.Reader) :
    Contents.ofFile reader oversizedImage =
      .ok ⟨[(".bss", .clamp (2 ^ 63)), (".bss", .clamp (2 ^ 63))], [], []⟩ := by
  have start : (window? oversizedImage 0 16).map Format.ofStart = some (.ok (.elf true)) := by
    rw [window?_eq]
    decide +kernel
  have shown : ((Elf.parse oversizedImage true).map (·.contents oversizedImage)).toOption =
      some ⟨[(".bss", .clamp (2 ^ 63)), (".bss", .clamp (2 ^ 63))], [], []⟩ := by
    unfold Elf.parse Elf.readTables Elf.readSections Elf.readNames Elf.readSymbolTable
      Elf.readSymbols Elf.checkPrograms Elf.sectionCount Elf.nameTableIndex Elf.programCount
      Elf.sectionZero Elf.holdsEntries table?
    simp only [window?_eq]
    decide +kernel
  obtain ⟨bytes, window, format⟩ := Option.map_eq_some_iff.mp start
  rw [Contents.ofFile, window]
  simp only [format, bind, Except.bind]
  cases parsed : (Elf.parse oversizedImage true).map (·.contents oversizedImage) with
  | error fault =>
    rw [parsed] at shown
    cases shown
  | ok contents =>
    rw [parsed] at shown
    cases shown
    rfl

theorem isOversized_image (path : Path) (reader : Foreign.Reader) :
    Backend.Target.IsOversized ⟨path, oversizedImage, reader⟩ :=
  ⟨_, ofFile_oversizedImage reader, ".bss", by decide⟩

end Sample

end SymbolFootprint
