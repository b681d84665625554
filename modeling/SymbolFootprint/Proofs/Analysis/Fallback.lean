import SymbolFootprint.Proofs.Analysis.Accounting
import SymbolFootprint.Proofs.Backend.Selection
import SymbolFootprint.Proofs.Report.Aggregation

/-!
When a file gets a report, and which backend gives its symbols.

The programs behind the backends may answer each call in any way, so what is known of a file is a
list of attempts, one for each backend of the order (`Backend.Attempt`). Reading the file itself
works exactly if the file is recognized (`Backend.isOk_read`). Hence a file with a fault is one that
no backend and no format reader could make sense of, and where the file itself is among the
backends, a report always names the backend that gave its symbols (`ofAttempts_fallback`). A
recognized file goes without a report only where a checked sum is too large
(`ofAttempts_oversized`).
-/

namespace SymbolFootprint

namespace Backend

/-- What one call of a backend came to: records, or the reason why there are none. -/
structure Attempt where
  backend : Backend
  outcome : Except String (List SymbolRecord)
deriving DecidableEq

theorem isOk_read (target : Target) : (read target).isOk = target.contents.isOk := by
  unfold read
  cases target.contents <;> rfl

namespace Attempt

def answer (attempt : Attempt) : Except Failure Found :=
  match attempt.outcome with
  | .error reason => .error ⟨attempt.backend.name, reason⟩
  | .ok records => .ok ⟨attempt.backend.name, records⟩

/-- Programs may answer in any way, but the file itself reads as it does. -/
def Possible (target : Target) (attempt : Attempt) : Prop :=
  attempt.backend = .structured → attempt.outcome = read target

theorem answer_eq_ok {attempt : Attempt} {found : Found} (success : attempt.answer = .ok found) :
    attempt.outcome = .ok found.records ∧ found.backend = attempt.backend.name := by
  unfold answer at success
  split at success
  · cases success
  · next records outcome =>
    cases success
    exact ⟨outcome, rfl⟩

theorem isOk_answer (attempt : Attempt) : attempt.answer.isOk = attempt.outcome.isOk := by
  unfold answer
  cases attempt.outcome <;> rfl

theorem exists_answer_of_isOk {attempt : Attempt} (success : attempt.outcome.isOk = true) :
    ∃ found, attempt.answer = .ok found := by
  rw [← isOk_answer] at success
  cases answer : attempt.answer with
  | error failure =>
    rw [answer] at success
    cases success
  | ok found => exact ⟨found, rfl⟩

end Attempt

def attemptOn (machine : Machine) (settings : Settings) (target : Target) (backend : Backend) :
    Attempt :=
  ⟨backend, backend.records machine settings target⟩

theorem possible_of_mem_attempts {machine : Machine} {settings : Settings} {target : Target}
    {order : List Backend} :
    ∀ attempt ∈ order.map (attemptOn machine settings target), attempt.Possible target := by
  intro attempt membership
  obtain ⟨backend, _, rfl⟩ := List.mem_map.mp membership
  rintro rfl
  rfl

theorem map_backend_attemptOn (machine : Machine) (settings : Settings) (target : Target)
    (order : List Backend) :
    (order.map (attemptOn machine settings target)).map Attempt.backend = order := by
  rw [List.map_map]
  exact List.map_id order

theorem select_ask (machine : Machine) (settings : Settings) (target : Target)
    (order : List Backend) :
    select (ask machine settings target) order =
      select Attempt.answer (order.map (attemptOn machine settings target)) := by
  induction order with
  | nil => rfl
  | cons backend order inductionHypothesis =>
    have same : (attemptOn machine settings target backend).answer =
        ask machine settings target backend := rfl
    rw [List.map_cons, select, select, same, inductionHypothesis]

end Backend

namespace Analysis

open Backend (Attempt)

/-- What is made of a file, by what the calls of the backends came to. -/
def ofAttempts (analysis : Analysis) (arithmetic : Arithmetic) (target : Backend.Target)
    (attempts : List Attempt) : Run (Except AnalysisFault FileReport) :=
  analysis.conclude arithmetic target (SymbolFootprint.select Attempt.answer attempts)

section Concluding

variable {analysis : Analysis} {arithmetic : Arithmetic} {target : Backend.Target}

theorem analyzeFile_eq_ofAttempts {machine : Machine} {path : Path} {content : ByteArray}
    (readable : machine.files.read path = .ok content) :
    let target : Backend.Target := ⟨path, content, machine.reader⟩
    analysis.analyzeFile machine path = analysis.ofAttempts machine.arithmetic target
      (analysis.order.map (Backend.attemptOn machine analysis.backends target)) := by
  intro target
  rw [ofAttempts, ← Backend.select_ask, analyzeFile, readable]
  rfl

theorem conclude_of_found (fits : ¬(arithmetic = .checked ∧ target.IsOversized)) {found : Found}
    (failures : List Failure) :
    analysis.conclude arithmetic target ⟨failures, some found⟩ =
      .done (.ok (.ofSelection analysis.demangler analysis.rules target
        ⟨failures, some found⟩)) := by
  rw [conclude_eq fits, if_neg]
  simp

theorem conclude_of_recognized (fits : ¬(arithmetic = .checked ∧ target.IsOversized))
    (recognized : target.contents.isOk = true) (selection : Selection) :
    analysis.conclude arithmetic target selection =
      .done (.ok (.ofSelection analysis.demangler analysis.rules target selection)) := by
  rw [conclude_eq fits, if_neg]
  simp [recognized]

theorem conclude_eq_error_iff {selection : Selection} {fault : AnalysisFault} :
    analysis.conclude arithmetic target selection = .done (.error fault) ↔
      selection.found = none ∧ ¬target.contents.isOk = true ∧
        fault = .unrecognized target.path selection.failures := by
  unfold conclude
  split
  · next failed =>
    rw [Option.isNone_iff_eq_none] at failed
    constructor
    · intro same
      cases same
      exact ⟨failed.1, failed.2, rfl⟩
    · rintro ⟨_, _, rfl⟩
      rfl
  · next works =>
    rw [Option.isNone_iff_eq_none] at works
    constructor
    · intro same
      split at same <;> cases same
    · rintro ⟨nothing, unrecognized, _⟩
      exact absurd ⟨nothing, unrecognized⟩ works

theorem recognized_of_conclude {failures : List Failure} {report : FileReport}
    (success : analysis.conclude arithmetic target ⟨failures, none⟩ = .done (.ok report)) :
    target.contents.isOk = true := by
  by_contra unrecognized
  have failed : analysis.conclude arithmetic target ⟨failures, none⟩ = .done (.error _) :=
    conclude_eq_error_iff.mpr ⟨rfl, unrecognized, rfl⟩
  cases failed.symm.trans success

theorem ofAttempts_eq_error_iff {attempts : List Attempt} {fault : AnalysisFault} :
    analysis.ofAttempts arithmetic target attempts = .done (.error fault) ↔
      ∃ failures : List Failure, attempts.map Attempt.answer = failures.map .error ∧
        ¬target.contents.isOk = true ∧ fault = .unrecognized target.path failures := by
  rw [ofAttempts, conclude_eq_error_iff]
  constructor
  · rintro ⟨nothing, unrecognized, rfl⟩
    refine ⟨_, select_eq_none_iff.mp ?_, unrecognized, rfl⟩
    rw [← nothing]
  · rintro ⟨failures, failed, unrecognized, rfl⟩
    rw [select_eq_none_iff.mpr failed]
    exact ⟨rfl, unrecognized, rfl⟩

theorem fits_of_conclude {selection : Selection} {outcome : Except AnalysisFault FileReport}
    (result : analysis.conclude arithmetic target selection = .done outcome) :
    ¬(arithmetic = .checked ∧ target.IsOversized) := by
  rw [← conclude_eq_overflowed_iff, result]
  exact fun same => by cases same

end Concluding

section Attempts

variable (analysis : Analysis) {arithmetic : Arithmetic} {target : Backend.Target}
  {attempts : List Attempt}

theorem exists_structured_answer (possible : ∀ attempt ∈ attempts, attempt.Possible target)
    (structured : .structured ∈ attempts.map Attempt.backend)
    (recognized : target.contents.isOk = true) :
    ∃ attempt ∈ attempts, ∃ found, attempt.answer = .ok found := by
  obtain ⟨attempt, membership, isStructured⟩ := List.mem_map.mp structured
  have outcome := possible attempt membership isStructured
  have success : attempt.outcome.isOk = true := by
    rw [outcome, Backend.isOk_read]
    exact recognized
  exact ⟨attempt, membership, Attempt.exists_answer_of_isOk success⟩

theorem ofAttempts_of_answer (fits : ¬(arithmetic = .checked ∧ target.IsOversized))
    {attempt : Attempt} {records : Found} (membership : attempt ∈ attempts)
    (success : attempt.answer = .ok records) :
    ∃ (front : List Attempt) (first : Attempt) (rest : List Attempt)
      (records : List SymbolRecord) (report : FileReport),
      attempts = front ++ first :: rest ∧ (∀ earlier ∈ front, earlier.outcome.isOk = false) ∧
      first.outcome = .ok records ∧
      analysis.ofAttempts arithmetic target attempts = .done (.ok report) ∧
      report.backend = some first.backend.name ∧
      report.symbolCount = (records.filter SymbolRecord.attributable).length := by
  obtain ⟨front, first, rest, failures, found, split, failed, works, result⟩ :=
    select_of_mem membership success
  obtain ⟨outcome, named⟩ := Attempt.answer_eq_ok works
  refine ⟨front, first, rest, found.records, .ofSelection analysis.demangler analysis.rules target
    ⟨failures, some found⟩, split, ?_, outcome, ?_, congrArg some named,
    FileReport.symbolCount_ofSelection ..⟩
  · intro earlier inside
    have answered := List.mem_map_of_mem (f := Attempt.answer) inside
    rw [failed] at answered
    obtain ⟨failure, _, same⟩ := List.mem_map.mp answered
    rw [← Attempt.isOk_answer, ← same]
    rfl
  · rw [ofAttempts, result]
    exact conclude_of_found fits failures

/-- Where the file itself is among the backends, a report names the backend of its symbols. -/
theorem backend_ne_none (possible : ∀ attempt ∈ attempts, attempt.Possible target)
    (structured : .structured ∈ attempts.map Attempt.backend) {report : FileReport}
    (success : analysis.ofAttempts arithmetic target attempts = .done (.ok report)) :
    report.backend ≠ none := by
  have fits := fits_of_conclude success
  rcases select_cases Attempt.answer attempts with ⟨failures, failed, result⟩ |
    ⟨_, _, _, failures, found, _, _, _, result⟩
  · rw [ofAttempts, result] at success
    obtain ⟨attempt, membership, found, answer⟩ :=
      exists_structured_answer possible structured (recognized_of_conclude success)
    have answered := List.mem_map_of_mem (f := Attempt.answer) membership
    rw [failed, answer] at answered
    exact absurd answered (ok_not_mem_errors failures)
  · rw [ofAttempts, result, conclude_of_found fits] at success
    cases success
    exact Option.some_ne_none _

/-- A file that is not recognized has no report where no program is asked. -/
theorem analyzeFile_of_unrecognized {machine : Machine} {path : Path} {content : ByteArray}
    (only : ∀ backend ∈ analysis.order, backend = .structured)
    (readable : machine.files.read path = .ok content) {fault : RecognitionFault}
    (unrecognized : Contents.ofFile machine.reader content = .error fault) :
    analysis.analyzeFile machine path =
      .done (.error (.unrecognized path (analysis.order.map fun backend =>
        ⟨backend.name, s!"unrecognized binary: {fault.message}"⟩))) := by
  have noContents : ¬(Backend.Target.contents ⟨path, content, machine.reader⟩).isOk = true := by
    rw [Backend.Target.contents, unrecognized]
    exact Bool.false_ne_true
  rw [analyzeFile_eq_ofAttempts readable, ofAttempts_eq_error_iff]
  refine ⟨_, ?_, noContents, rfl⟩
  rw [List.map_map, List.map_map]
  apply List.map_congr_left
  intro backend membership
  cases only backend membership
  rw [Function.comp_apply, Backend.attemptOn, Attempt.answer, Backend.records_structured,
    Backend.read_of_error unrecognized]
  rfl

/-- The files themselves give the same symbols if they show the same. -/
theorem select_of_same_contents (machine : Machine) (path : Path) {reader : Foreign.Reader}
    {first second : ByteArray} (only : ∀ backend ∈ analysis.order, backend = .structured)
    (same : Contents.ofFile reader second = Contents.ofFile reader first) :
    analysis.select machine ⟨path, second, reader⟩ =
      analysis.select machine ⟨path, first, reader⟩ := by
  have attempts : ∀ backend ∈ analysis.order,
      Backend.attemptOn machine analysis.backends ⟨path, second, reader⟩ backend =
        Backend.attemptOn machine analysis.backends ⟨path, first, reader⟩ backend := by
    intro backend membership
    rw [only backend membership]
    simp only [Backend.attemptOn, Backend.records_structured, Backend.read, Backend.Target.contents,
      same]
  rw [select, select, Backend.select_ask, Backend.select_ask, List.map_congr_left attempts]

end Attempts

section Run

variable {analysis : Analysis} {machine : Machine} {paths : List Path} {reports : List FileReport}
  {skipped : List SkippedFile}

namespace Accounts

theorem analyzeFile_of_mem_reports (accounts : analysis.Accounts machine paths reports skipped)
    {report : FileReport} (membership : report ∈ reports) :
    ∃ path ∈ paths, analysis.analyzeFile machine path = .done (.ok report) := by
  induction accounts with
  | nil => cases membership
  | report outcome _ inductionHypothesis =>
    rcases List.mem_cons.mp membership with rfl | inside
    · exact ⟨_, List.mem_cons_self .., outcome⟩
    · obtain ⟨path, present, success⟩ := inductionHypothesis inside
      exact ⟨path, List.mem_cons_of_mem _ present, success⟩
  | skip _ _ inductionHypothesis =>
    obtain ⟨path, present, success⟩ := inductionHypothesis membership
    exact ⟨path, List.mem_cons_of_mem _ present, success⟩

theorem analyzeFile_of_mem_skipped (accounts : analysis.Accounts machine paths reports skipped)
    {file : SkippedFile} (membership : file ∈ skipped) :
    analysis.analyzeFile machine file.path =
      .done (.error (.unreadable file.path file.reason)) := by
  induction accounts with
  | nil => cases membership
  | report _ _ inductionHypothesis => exact inductionHypothesis membership
  | skip outcome _ inductionHypothesis =>
    rcases List.mem_cons.mp membership with rfl | inside
    · exact outcome
    · exact inductionHypothesis inside

end Accounts

theorem exists_content_of_report {path : Path} {report : FileReport}
    (success : analysis.analyzeFile machine path = .done (.ok report)) :
    ∃ content, machine.files.read path = .ok content := by
  unfold analyzeFile at success
  split at success
  · cases success
  · next content readable => exact ⟨content, readable⟩

theorem backend_ne_none_of_run (structured : .structured ∈ analysis.order) {corpus : CorpusReport}
    (result : analysis.analyze machine paths = .done (.ok corpus)) :
    ∀ report ∈ corpus.files, report.backend ≠ none := by
  intro report membership
  obtain ⟨path, _, success⟩ := (accounts_of_analyze result).analyzeFile_of_mem_reports membership
  obtain ⟨content, readable⟩ := exists_content_of_report success
  rw [analyzeFile_eq_ofAttempts readable] at success
  refine backend_ne_none analysis Backend.possible_of_mem_attempts ?_ success
  rw [Backend.map_backend_attemptOn]
  exact structured

theorem not_recognized_of_skipped {corpus : CorpusReport}
    (result : analysis.analyze machine paths = .done (.ok corpus)) {file : SkippedFile}
    (membership : file ∈ corpus.skipped) {content : ByteArray}
    (readable : machine.files.read file.path = .ok content) :
    ¬(Contents.ofFile machine.reader content).isOk = true := by
  have failed := (accounts_of_analyze result).analyzeFile_of_mem_skipped membership
  rw [analyzeFile_eq_ofAttempts readable] at failed
  obtain ⟨_, _, unrecognized, _⟩ := ofAttempts_eq_error_iff.mp failed
  exact unrecognized

end Run

/-- Whatever the programs answer, a file that can be read has a fault exactly if every backend fails
and the file is not recognized; the fault then lists all failures in the order of the backends. Its
analysis ends without a result exactly if a checked sum is too large. Apart from that, where the file
itself is among the backends, every recognized file has a report from the first backend that works,
and no report goes without a backend. A file that is recognized is never skipped, even without any
symbols. -/
theorem ofAttempts_fallback (analysis : Analysis) (arithmetic : Arithmetic)
    (target : Backend.Target) (attempts : List Attempt)
    (inOrder : attempts.map Attempt.backend = analysis.order)
    (possible : ∀ attempt ∈ attempts, attempt.Possible target) :
    let outcome := analysis.ofAttempts arithmetic target attempts
    let recognized := target.contents.isOk = true
    let overflows := arithmetic = .checked ∧ target.IsOversized
    (∀ fault, outcome = .done (.error fault) ↔
      ∃ failures : List Failure, attempts.map Attempt.answer = failures.map .error ∧
        ¬recognized ∧ fault = .unrecognized target.path failures) ∧
    (outcome = .overflowed ↔ overflows) ∧
    (¬overflows → recognized ∨ (∃ attempt ∈ attempts, attempt.outcome.isOk = true) →
      ∃ report, outcome = .done (.ok report)) ∧
    (¬overflows → .structured ∈ analysis.order → recognized →
      ∃ (front : List Attempt) (first : Attempt) (rest : List Attempt)
        (records : List SymbolRecord) (report : FileReport),
        attempts = front ++ first :: rest ∧ (∀ earlier ∈ front, earlier.outcome.isOk = false) ∧
        first.outcome = .ok records ∧ outcome = .done (.ok report) ∧
        report.backend = some first.backend.name ∧
        report.symbolCount = (records.filter SymbolRecord.attributable).length) ∧
    (.structured ∈ analysis.order → ∀ report, outcome = .done (.ok report) →
      report.backend ≠ none) ∧
    (∀ machine : Machine, machine.arithmetic = arithmetic → machine.reader = target.reader →
      machine.files.read target.path = .ok target.content →
      let tried := analysis.order.map (Backend.attemptOn machine analysis.backends target)
      tried.map Attempt.backend = analysis.order ∧
      (∀ attempt ∈ tried, attempt.Possible target) ∧
      analysis.analyzeFile machine target.path = analysis.ofAttempts arithmetic target tried) ∧
    ∀ (machine : Machine) (paths : List Path) (corpus : CorpusReport),
      analysis.analyze machine paths = .done (.ok corpus) →
      (.structured ∈ analysis.order → ∀ report ∈ corpus.files, report.backend ≠ none) ∧
      ∀ file ∈ corpus.skipped, ∀ content, machine.files.read file.path = .ok content →
        (Contents.ofFile machine.reader content).isOk = false := by
  intro outcome recognized overflows
  refine ⟨?_, conclude_eq_overflowed_iff, ?_, ?_, ?_, ?_, ?_⟩
  · intro fault
    exact ofAttempts_eq_error_iff
  · rintro fits (isRecognized | ⟨attempt, membership, success⟩)
    · exact ⟨_, conclude_of_recognized fits isRecognized _⟩
    · obtain ⟨found, answer⟩ := Attempt.exists_answer_of_isOk success
      obtain ⟨_, _, _, _, report, _, _, _, result, _⟩ :=
        ofAttempts_of_answer analysis fits membership answer
      exact ⟨report, result⟩
  · intro fits structured isRecognized
    rw [← inOrder] at structured
    obtain ⟨attempt, membership, found, answer⟩ :=
      exists_structured_answer possible structured isRecognized
    exact ofAttempts_of_answer analysis fits membership answer
  · intro structured report success
    rw [← inOrder] at structured
    exact backend_ne_none analysis possible structured success
  · rintro machine rfl sameReader readable tried
    refine ⟨Backend.map_backend_attemptOn .., Backend.possible_of_mem_attempts, ?_⟩
    have same : (⟨target.path, target.content, machine.reader⟩ : Backend.Target) = target := by
      rw [sameReader]
    rw [analyzeFile_eq_ofAttempts readable, same]
  · intro machine paths corpus result
    constructor
    · intro structured
      exact backend_ne_none_of_run structured result
    · intro file membership content readable
      exact Bool.eq_false_iff.mpr (not_recognized_of_skipped result membership readable)

/-- An object file that is just a header, after a program that failed. -/
theorem ofAttempts_fallback_bare :
    let content : ByteArray := ⟨(0x4C :: 0x01 :: List.replicate 18 0).toArray⟩
    let target : Backend.Target := ⟨⟨"bare.o"⟩, content, .none⟩
    let analysis : Analysis := { order := [.nm, .structured, .nm] }
    let attempts : List Attempt :=
      [⟨.nm, .error "killed"⟩, ⟨.structured, .ok []⟩, ⟨.nm, .ok []⟩]
    attempts.map Attempt.backend = analysis.order ∧
    (∀ attempt ∈ attempts, attempt.Possible target) ∧
    ¬(Arithmetic.checked = .checked ∧ target.IsOversized) ∧
    target.contents.isOk = true ∧
    ∃ report, analysis.ofAttempts .checked target attempts = .done (.ok report) ∧
      report.backend = some "structured" ∧ report.symbolCount = 0 := by
  intro content target analysis attempts
  have inOrder : attempts.map Attempt.backend = analysis.order := rfl
  have bare : Backend.read target = .ok [] := by decide
  have possible : ∀ attempt ∈ attempts, attempt.Possible target := by
    intro attempt membership isStructured
    simp only [attempts, List.mem_cons, List.not_mem_nil, or_false] at membership
    rcases membership with rfl | rfl | rfl
    · cases isStructured
    · exact bare.symm
    · cases isStructured
  have recognized : target.contents.isOk = true := by
    rw [← Backend.isOk_read, bare]
    rfl
  have fits : ¬(Arithmetic.checked = .checked ∧ target.IsOversized) := by
    rw [Backend.Target.isOversized_iff]
    decide
  obtain ⟨_, _, _, first, _⟩ :=
    ofAttempts_fallback analysis .checked target attempts inOrder possible
  obtain ⟨front, chosen, rest, records, report, split, failed, outcome, result, named, count⟩ :=
    first fits (by decide) recognized
  simp only [attempts] at split
  rcases front with _ | ⟨before, _ | ⟨second, front⟩⟩
  · cases split
    cases outcome
  · cases split
    cases outcome
    exact ⟨inOrder, possible, fits, recognized, report, result, named, count⟩
  · simp only [List.cons_append, List.cons.injEq] at split
    obtain ⟨_, rfl, _⟩ := split
    cases failed ⟨.structured, .ok []⟩ (by simp)

/-- A recognized file from which all backends give symbols, and which has no report. -/
theorem ofAttempts_oversized :
    let target : Backend.Target := ⟨⟨"big.so"⟩, oversizedImage, .none⟩
    let analysis : Analysis := {}
    let attempts : List Attempt := [⟨.structured, .ok []⟩, ⟨.readelf, .ok []⟩, ⟨.nm, .ok []⟩]
    attempts.map Attempt.backend = analysis.order ∧
    (∀ attempt ∈ attempts, attempt.Possible target) ∧
    .structured ∈ analysis.order ∧ target.contents.isOk = true ∧
    ¬∃ report, analysis.ofAttempts .checked target attempts = .done (.ok report) := by
  intro target analysis attempts
  have oversized : target.IsOversized := isOversized_image _ _
  have shown : Backend.read target = .ok [] := by
    rw [Backend.read_of_ok (ofFile_oversizedImage _)]
    rfl
  refine ⟨rfl, ?_, by decide, oversized.isOk, ?_⟩
  · intro attempt membership isStructured
    simp only [attempts, List.mem_cons, List.not_mem_nil, or_false] at membership
    rcases membership with rfl | rfl | rfl
    · exact shown.symm
    · cases isStructured
    · cases isStructured
  · rintro ⟨report, result⟩
    exact fits_of_conclude result ⟨rfl, oversized⟩

end Analysis

end SymbolFootprint
