import SymbolFootprint.Proofs.Analysis.Fallback
import SymbolFootprint.Proofs.Fixture.RoundTrip
import SymbolFootprint.Proofs.Object.Extension

/-!
Object files with any bytes appended.

The strings for the names of symbols and sections end before the section table, and so within the
file (`namesInside_read`). A file that is built therefore shows the same with more bytes behind it,
and its report differs in nothing but the size of the file (`build_append`).
-/

namespace SymbolFootprint.Fixture

open Elf

section Append

variable {fixture : Fixture} {file : ByteArray}

theorem namesInside_read (content : file.data.toList = fixture.toBytes) :
    fixture.read.NamesInside file where
  sections := by
    rintro area ⟨⟩
    rw [size_eq_length, content]
    exact fixture.runAt_sectionStrings.stop_le
  symbols := by
    rintro area ⟨⟩
    rw [size_eq_length, content]
    exact fixture.runAt_strings.stop_le
  dynamicSymbols := by
    rintro area ⟨⟩

theorem ofFile_append (fileFits : fixture.toBytes.length < 2 ^ 64)
    (content : file.data.toList = fixture.toBytes) (more : ByteArray) (reader : Foreign.Reader) :
    Contents.ofFile reader (file ++ more) = Contents.ofFile reader file := by
  have begins : file.data.toList <+: (file ++ more).data.toList := by
    rw [ByteArray.data_append, Array.toList_append]
    exact List.prefix_append _ _
  have stands := fixture.runAt_header
  rw [← content, ← List.take_append_drop 16 fixture.layout.header] at stands
  have start : window? file 0 16 = some (fixture.layout.header.take 16) :=
    window?_of_runAt stands.start
  exact Contents.ofFile_of_begins begins start rfl (parse_toBytes fileFits content)
    (namesInside_read content) reader

end Append

/-- Bytes behind a file that is built change nothing but its size: it stays recognized, the same
records are read from it in the same order, its sections have the same sizes, and a report on it
without other programs differs in the size of the file only. -/
theorem build_append (calls : List Symbol) (noZero : ∀ call ∈ calls, '\x00' ∉ call.name.toList) :
    ∃ file, (ofCalls calls).build = .ok file ∧
      ∀ more : ByteArray, (file ++ more).size < 2 ^ 64 → ∀ reader : Foreign.Reader,
        (Contents.ofFile reader (file ++ more)).isOk = true ∧
        (∀ machine settings path, ∃ records,
          Backend.structured.records machine settings ⟨path, file, reader⟩ = .ok records ∧
          Backend.structured.records machine settings ⟨path, file ++ more, reader⟩ =
            .ok records) ∧
        FileReport.sectionSizes reader (file ++ more) = FileReport.sectionSizes reader file ∧
        ∀ (analysis : Analysis) (machine : Machine) (path : Path),
          (∀ backend ∈ analysis.order, backend = .structured) →
          ∃ report longer : FileReport,
            analysis.analyzeContent machine ⟨path, file, reader⟩ = .done (.ok report) ∧
            analysis.analyzeContent machine ⟨path, file ++ more, reader⟩ = .done (.ok longer) ∧
            longer = { report with fileSize := longer.fileSize } ∧
            longer.fileSize.bytes = report.fileSize.bytes + more.size := by
  rw [ofCalls_eq]
  refine ⟨_, build_eq_ok noZero, ?_⟩
  generalize built : (⟨(toBytes ⟨calls⟩).toArray⟩ : ByteArray) = file
  have content : file.data.toList = toBytes ⟨calls⟩ := by rw [← built]
  intro more fits reader
  rw [ByteArray.size_append] at fits
  have fileFits : (toBytes ⟨calls⟩).length < 2 ^ 64 := by
    rw [← content, ← size_eq_length]
    omega
  have recognized := ofFile_of_fileFits fileFits content reader
  have same := ofFile_append fileFits content more reader
  have isRecognized : (Contents.ofFile reader file).isOk = true := by
    rw [recognized]
    rfl
  have stillRecognized : (Contents.ofFile reader (file ++ more)).isOk = true := by
    rw [same]
    exact isRecognized
  refine ⟨stillRecognized, ?_, ?_, ?_⟩
  · intro machine settings path
    exact ⟨_, Backend.read_of_ok recognized, Backend.read_of_ok (same.trans recognized)⟩
  · rw [FileReport.sectionSizes, FileReport.sectionSizes, same]
  · intro analysis machine path only
    have small : ¬Backend.Target.IsOversized ⟨path, file, reader⟩ :=
      not_isOversized fileFits content
    have stillSmall : ¬Backend.Target.IsOversized ⟨path, file ++ more, reader⟩ := by
      rw [Backend.Target.IsOversized, Backend.Target.contents, same]
      exact small
    have selection := analysis.select_of_same_contents machine path only same
    refine ⟨_, _, Analysis.conclude_of_recognized (fun overflow => small overflow.2)
      isRecognized _, Analysis.conclude_of_recognized (fun overflow => stillSmall overflow.2)
      stillRecognized _, ?_, ?_⟩
    · simp only [selection, FileReport.ofSelection, FileReport.sectionSizes, same]
    · simp only [FileReport.ofSelection, ByteArray.size_append]
      rw [bytes_clamp_of_lt fits, bytes_clamp_of_lt (by omega)]

theorem build_append_sharedNames :
    let more : ByteArray := ⟨#[0, 0xFF]⟩
    let analysis : Analysis := { order := [.structured] }
    let machine : Machine := { files := ⟨[], []⟩, programs := [] }
    (∀ call ∈ sharedNames, '\x00' ∉ call.name.toList) ∧
    ∃ file, (ofCalls sharedNames).build = .ok file ∧ (file ++ more).size < 2 ^ 64 ∧
      (Contents.ofFile .none (file ++ more)).isOk = true ∧
      FileReport.sectionSizes .none (file ++ more) = FileReport.sectionSizes .none file ∧
      ∃ report longer : FileReport,
        analysis.analyzeContent machine ⟨⟨"longer.so"⟩, file, .none⟩ = .done (.ok report) ∧
        analysis.analyzeContent machine ⟨⟨"longer.so"⟩, file ++ more, .none⟩ =
          .done (.ok longer) ∧
        longer.types = report.types ∧
        longer.fileSize.bytes = report.fileSize.bytes + 2 := by
  intro more analysis machine
  have noZero : ∀ call ∈ sharedNames, '\x00' ∉ call.name.toList := by decide
  have names : (sharedNames.map fun call => (nameBytes call.name).length + 1).sum = 42 := by decide
  have most : (toBytes ⟨sharedNames⟩).length ≤ 111 + 24 * 4 + 42 + 527 :=
    names ▸ length_toBytes_le ⟨sharedNames⟩
  obtain ⟨file, built, appended⟩ := build_append sharedNames noZero
  have size : file.size = (toBytes ⟨sharedNames⟩).length :=
    size_of_build noZero (ofCalls_eq sharedNames ▸ built)
  have two : more.size = 2 := rfl
  have fits : (file ++ more).size < 2 ^ 64 := by
    rw [ByteArray.size_append]
    omega
  obtain ⟨recognized, _, sections, reports⟩ := appended more fits .none
  obtain ⟨report, longer, before, after, same, grown⟩ :=
    reports analysis machine ⟨"longer.so"⟩ (by decide)
  have types : longer.types = report.types := by rw [same]
  exact ⟨noZero, file, built, fits, recognized, sections, report, longer, before, after, types,
    grown⟩

end SymbolFootprint.Fixture
