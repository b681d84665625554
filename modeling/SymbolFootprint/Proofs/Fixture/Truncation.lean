import SymbolFootprint.Proofs.Analysis.Fallback
import SymbolFootprint.Proofs.Bytes.Beginnings
import SymbolFootprint.Proofs.Fixture.RoundTrip

/-!
The beginnings of an object file.

The section table stands at the end of a file, so a file that misses any of its bytes misses a part
of this table, and the reader finds out: a cut through the first bytes, through the rest of the file
header and behind it each has a fault of its own (`cutFault`, `ofFile_of_cut`). No cut file is
recognized, so none of them has sections, symbols or a report (`build_truncated`).
-/

namespace SymbolFootprint.Fixture

open Elf

/-- The fault of a file of which only a number of bytes is left. -/
def cutFault (size : Nat) : RecognitionFault :=
  if size < 16 then .noMagic
  else if size < 64 then .elf .header
  else .elf .sectionTable

section Cut

variable {fixture : Fixture} {cut : ByteArray} (begins : cut.data.toList <+: fixture.toBytes)

include begins

/-- As far as a cut file reaches it begins with the header. -/
theorem runAt_header_of_cut {count : Nat} (inHeader : count ≤ 64) (left : count ≤ cut.size) :
    RunAt cut.data.toList 0 (fixture.layout.header.take count) := by
  have stands := fixture.runAt_header
  rw [← List.take_append_drop count fixture.layout.header] at stands
  apply RunAt.of_begins begins stands.start
  rw [List.length_take, length_header, ← size_eq_length]
  omega

omit begins in
theorem readSections_of_cut (short : cut.size < fixture.toBytes.length) :
    readSections cut encoding fixture.layout.readHeader = .error .sectionTable := by
  have table : table? cut fixture.layout.sectionTableStart 64 6 = none := by
    rw [length_toBytes_eq_add] at short
    rw [table?, window?_eq_none short]
    rfl
  rw [readSections_eq, table]

theorem parse_of_cut (fileFits : fixture.toBytes.length < 2 ^ 64) (left : 64 ≤ cut.size)
    (short : cut.size < fixture.toBytes.length) : Elf.parse cut true = .error .sectionTable := by
  have stands := runAt_header_of_cut begins (Nat.le_refl 64) left
  rw [List.take_of_length_le (Nat.le_of_eq (length_header fixture.layout))] at stands
  rw [parse_of_header stands (sectionTableStart_lt fileFits)]
  simp only [readTables, checkPrograms_readHeader, readSections_of_cut short, bind,
    Except.bind]

theorem ofFile_of_cut (fileFits : fixture.toBytes.length < 2 ^ 64)
    (short : cut.size < fixture.toBytes.length) (reader : Foreign.Reader) :
    Contents.ofFile reader cut = .error (cutFault cut.size) := by
  unfold cutFault
  split
  · next noMagic =>
    rw [Contents.ofFile, window?_eq_none (by omega)]
  · next magic =>
    have stands := runAt_header_of_cut begins (by decide) (Nat.le_of_not_lt magic)
    rw [ofFile_of_start stands]
    split
    · next noHeader =>
      have header : window? cut 0 (Encoding.headerSize ⟨true, .little⟩) = none :=
        window?_eq_none (by change cut.size < 0 + 64; omega)
      rw [Elf.parse, header]
      rfl
    · next header =>
      rw [parse_of_cut begins fileFits (Nat.le_of_not_lt header) short]
      rfl

end Cut

/-- A file that is built is recognized, but no part of it yields a part of a report: whatever number
of bytes is left, the file is not recognized, shows no sections, gives no symbols to the reader of
files, and is unreadable where no program is asked. -/
theorem build_truncated (calls : List Symbol) (noZero : ∀ call ∈ calls, '\x00' ∉ call.name.toList) :
    ∃ file, (ofCalls calls).build = .ok file ∧
      (file.size < 2 ^ 64 → ∀ reader : Foreign.Reader,
        (Contents.ofFile reader file).isOk = true ∧ ∀ count < file.size,
        let cut := file.extract 0 count
        Contents.ofFile reader cut = .error (cutFault count) ∧
        FileReport.sectionSizes reader cut = .empty ∧
        (∀ machine settings path, Backend.structured.ask machine settings ⟨path, cut, reader⟩ =
          .error ⟨"structured", s!"unrecognized binary: {(cutFault count).message}"⟩) ∧
        ∀ (analysis : Analysis) (machine : Machine) (path : Path),
          (∀ backend ∈ analysis.order, backend = .structured) →
          machine.files.read path = .ok cut →
          ∃ reason,
            analysis.analyzeFile machine path = .done (.error (.unreadable path reason))) := by
  rw [ofCalls_eq]
  refine ⟨_, build_eq_ok noZero, ?_⟩
  intro fileFits reader
  rw [size_eq_length] at fileFits
  constructor
  · have content : (⟨(toBytes ⟨calls⟩).toArray⟩ : ByteArray).data.toList = toBytes ⟨calls⟩ := rfl
    rw [ofFile_of_fileFits fileFits content]
    rfl
  · intro count short cut
    rw [size_eq_length] at short
    have size : cut.size = count := by
      rw [ByteArray.size_extract, size_eq_length]
      omega
    have begins : cut.data.toList <+: toBytes ⟨calls⟩ := by
      rw [ByteArray.data_extract, Array.toList_extract, List.extract_eq_take_drop]
      exact List.take_prefix _ _
    have fault : ∀ reader, Contents.ofFile reader cut = .error (cutFault count) := by
      rw [← size] at short ⊢
      exact ofFile_of_cut begins fileFits short
    refine ⟨fault reader, ?_, ?_, ?_⟩
    · rw [FileReport.sectionSizes, fault]
    · intro machine settings path
      rw [Backend.ask, Backend.records_structured, Backend.read_of_error (fault _)]
      rfl
    · intro analysis machine path only readable
      exact ⟨_, analysis.analyzeFile_of_unrecognized only readable (fault _)⟩

/-- Five bytes of code behind the header, cut off in the middle. -/
theorem build_truncated_inCode :
    let calls : List Symbol := [⟨.function, "main", 5⟩]
    let analysis : Analysis := { order := [.structured] }
    let machineWith : ByteArray → Machine := fun content =>
      { files := ⟨[(["cut.so"], .file content)], []⟩, programs := [] }
    (∀ call ∈ calls, '\x00' ∉ call.name.toList) ∧
    ∃ file, (ofCalls calls).build = .ok file ∧ file.size < 2 ^ 64 ∧ 66 < file.size ∧
      Contents.ofFile .none (file.extract 0 66) = .error (.elf .sectionTable) ∧
      ∃ reason, analysis.analyzeFile (machineWith (file.extract 0 66)) ⟨"cut.so"⟩ =
        .done (.error (.unreadable ⟨"cut.so"⟩ reason)) := by
  intro calls analysis machineWith
  have noZero : ∀ call ∈ calls, '\x00' ∉ call.name.toList := by decide
  have names : (calls.map fun call => (nameBytes call.name).length + 1).sum = 5 := by decide
  have most : (toBytes ⟨calls⟩).length ≤ 5 + 24 * 1 + 5 + 527 := names ▸ length_toBytes_le ⟨calls⟩
  have table := length_toBytes_eq_add ⟨calls⟩
  obtain ⟨file, built, cuts⟩ := build_truncated calls noZero
  have size : file.size = (toBytes ⟨calls⟩).length :=
    size_of_build noZero (ofCalls_eq calls ▸ built)
  have fileFits : file.size < 2 ^ 64 := by omega
  have longEnough : 66 < file.size := by omega
  obtain ⟨_, parts⟩ := cuts fileFits .none
  obtain ⟨fault, _, _, report⟩ := parts 66 longEnough
  exact ⟨noZero, file, built, fileFits, longEnough, fault,
    report analysis (machineWith (file.extract 0 66)) ⟨"cut.so"⟩ (by decide) rfl⟩

end SymbolFootprint.Fixture
