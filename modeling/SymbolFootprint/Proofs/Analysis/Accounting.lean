import SymbolFootprint.Proofs.Analysis.Overflow
import SymbolFootprint.Proofs.Report.Sections

/-!
What a run over many files makes of each of them.

`Accounts` goes through the paths of a run and takes each one to a report or to an entry of the
skipped files. A run in which no checked sum is too large does just this (`analyze_of_ne_nil`), and
only this (`Accounts.analyze_eq`), so leaving out the paths that fail leaves the reports as they are
(`Accounts.filter_succeeds`). All totals are read off the reports, and the page shows both lists
(`analyze_accounts`). One file whose sizes are too large is enough for no entry at all
(`analyze_oversized`).
-/

namespace SymbolFootprint

namespace CorpusReport

/-- Two reports with the same totals, rankings and sizes of files. -/
structure SameTotals (first second : CorpusReport) : Prop where
  namespaces : first.namespaces = second.namespaces
  types : first.types = second.types
  topNamespaces : first.topNamespaces = second.topNamespaces
  topTypes : first.topTypes = second.topTypes
  filesBySize : first.filesBySize = second.filesBySize
  assemblySizes : first.assemblySizes = second.assemblySizes
  totalSymbolBytes : first.totalSymbolBytes = second.totalSymbolBytes
  totalFileBytes : first.totalFileBytes = second.totalFileBytes

theorem sameTotals_of_files {files : List FileReport} (skipped others : List SkippedFile) :
    SameTotals ⟨files, skipped⟩ ⟨files, others⟩ :=
  ⟨rfl, rfl, rfl, rfl, rfl, rfl, rfl, rfl⟩

theorem filesBySize_perm (corpus : CorpusReport) : corpus.filesBySize.Perm corpus.files :=
  List.mergeSort_perm ..

end CorpusReport

namespace Analysis

variable (analysis : Analysis) (machine : Machine)

/-- Is there a report on the file? -/
def succeeds (path : Path) : Bool :=
  match analysis.analyzeFile machine path with
  | .done (.ok _) => true
  | _ => false

/-- Each path has one entry, in order: a report, or the reason why there is none. -/
inductive Accounts : List Path → List FileReport → List SkippedFile → Prop
  | nil : Accounts [] [] []
  | report {path report paths reports skipped} :
      analysis.analyzeFile machine path = .done (.ok report) → Accounts paths reports skipped →
      Accounts (path :: paths) (report :: reports) skipped
  | skip {path reason paths reports skipped} :
      analysis.analyzeFile machine path = .done (.error (.unreadable path reason)) →
      Accounts paths reports skipped →
      Accounts (path :: paths) reports (⟨path, reason⟩ :: skipped)

section Run

variable {analysis : Analysis} {machine : Machine}

/-- A file whose sizes can be added comes to a report under its path, or to a fault under it. -/
theorem analyzeFile_cases {path : Path} (fits : ¬machine.Overflows path) :
    (∃ report, analysis.analyzeFile machine path = .done (.ok report) ∧ report.path = path) ∨
      ∃ reason, analysis.analyzeFile machine path = .done (.error (.unreadable path reason)) := by
  unfold analyzeFile
  cases readable : machine.files.read path with
  | error fault => exact .inr ⟨_, rfl⟩
  | ok content =>
    have small : ¬(machine.arithmetic = .checked ∧
        Backend.Target.IsOversized ⟨path, content, machine.reader⟩) :=
      fun overflow => fits ⟨overflow.1, content, readable, overflow.2⟩
    simp only [analyzeContent, conclude_eq small]
    split
    · exact .inr ⟨_, rfl⟩
    · exact .inl ⟨_, rfl, rfl⟩

theorem not_overflows_of_done {path : Path} {outcome : Except AnalysisFault FileReport}
    (result : analysis.analyzeFile machine path = .done outcome) : ¬machine.Overflows path := by
  rw [← analyzeFile_eq_overflowed_iff analysis, result]
  exact fun same => by cases same

theorem path_of_analyzeFile {path : Path} {report : FileReport}
    (success : analysis.analyzeFile machine path = .done (.ok report)) : report.path = path := by
  rcases analyzeFile_cases (not_overflows_of_done success) with ⟨other, same, named⟩ | ⟨_, failed⟩
  · cases same.symm.trans success
    exact named
  · cases failed.symm.trans success

theorem fault_of_analyzeFile {path : Path} {fault : AnalysisFault}
    (failed : analysis.analyzeFile machine path = .done (.error fault)) :
    ∃ reason, fault = .unreadable path reason := by
  rcases analyzeFile_cases (not_overflows_of_done failed) with ⟨_, success, _⟩ | ⟨reason, same⟩
  · cases success.symm.trans failed
  · cases same.symm.trans failed
    exact ⟨reason, rfl⟩

theorem succeeds_iff {path : Path} :
    analysis.succeeds machine path = true ↔
      ∃ report, analysis.analyzeFile machine path = .done (.ok report) := by
  unfold succeeds
  split
  · next report success => exact iff_of_true rfl ⟨report, success⟩
  · next other =>
    refine iff_of_false Bool.false_ne_true ?_
    rintro ⟨report, success⟩
    exact other report success

theorem succeeds_of_ok {path : Path} {report : FileReport}
    (success : analysis.analyzeFile machine path = .done (.ok report)) :
    analysis.succeeds machine path = true :=
  succeeds_iff.mpr ⟨report, success⟩

theorem succeeds_of_error {path : Path} {fault : AnalysisFault}
    (failed : analysis.analyzeFile machine path = .done (.error fault)) :
    analysis.succeeds machine path = false := by
  rw [succeeds, failed]

theorem accounts_of_map {paths : List Path} {outcomes : List (Except AnalysisFault FileReport)}
    (results : paths.map (analysis.analyzeFile machine) = outcomes.map .done) :
    analysis.Accounts machine paths (corpus outcomes).files (corpus outcomes).skipped := by
  induction paths generalizing outcomes with
  | nil =>
    rw [List.map_nil, eq_comm, List.map_eq_nil_iff] at results
    rw [results]
    exact .nil
  | cons path paths inductionHypothesis =>
    cases outcomes with
    | nil => cases results
    | cons outcome outcomes =>
      obtain ⟨own, others⟩ := List.cons.inj results
      have rest := inductionHypothesis others
      cases outcome with
      | ok report => exact .report own rest
      | error fault =>
        obtain ⟨reason, rfl⟩ := fault_of_analyzeFile own
        exact .skip own rest

theorem analyze_eq_overflowed_iff {paths : List Path} :
    analysis.analyze machine paths = .overflowed ↔ ∃ path ∈ paths, machine.Overflows path := by
  have some : Run.all (paths.map (analysis.analyzeFile machine)) = .overflowed ↔
      ∃ path ∈ paths, machine.Overflows path := by
    simp only [Run.all_eq_overflowed_iff, List.mem_map, analyzeFile_eq_overflowed_iff]
  cases paths with
  | nil => simp [analyze]
  | cons path paths =>
    rw [← some, analyze, if_neg (by simp)]
    split
    · next result => exact iff_of_true rfl result
    · next result =>
      refine iff_of_false (fun same => by cases same) ?_
      intro same
      cases result.symm.trans same

theorem analyze_of_ne_nil {paths : List Path} (nonempty : paths ≠ [])
    (fit : ∀ path ∈ paths, ¬machine.Overflows path) :
    ∃ corpus, analysis.analyze machine paths = .done (.ok corpus) ∧
      analysis.Accounts machine paths corpus.files corpus.skipped := by
  have notEmpty : ¬paths.isEmpty = true := by simpa using nonempty
  cases result : Run.all (paths.map (analysis.analyzeFile machine)) with
  | overflowed =>
    obtain ⟨path, membership, overflows⟩ := List.mem_map.mp (Run.all_eq_overflowed_iff.mp result)
    exact absurd ((analyzeFile_eq_overflowed_iff analysis).mp overflows) (fit path membership)
  | done outcomes =>
    refine ⟨corpus outcomes, ?_, accounts_of_map (Run.all_eq_done_iff.mp result)⟩
    rw [analyze, if_neg notEmpty, result]

namespace Accounts

variable {paths : List Path} {reports : List FileReport} {skipped : List SkippedFile}

theorem length_add (accounts : analysis.Accounts machine paths reports skipped) :
    reports.length + skipped.length = paths.length := by
  induction accounts with
  | nil => rfl
  | report _ _ inductionHypothesis =>
    rw [List.length_cons, List.length_cons, ← inductionHypothesis]
    omega
  | skip _ _ inductionHypothesis =>
    rw [List.length_cons, List.length_cons, ← inductionHypothesis]
    omega

theorem map_path (accounts : analysis.Accounts machine paths reports skipped) :
    reports.map FileReport.path = paths.filter (analysis.succeeds machine) ∧
      skipped.map SkippedFile.path = paths.filter fun path => !analysis.succeeds machine path := by
  induction accounts with
  | nil => exact ⟨rfl, rfl⟩
  | @report path report _ _ _ outcome _ inductionHypothesis =>
    have success := succeeds_of_ok outcome
    rw [List.filter_cons_of_pos success, List.filter_cons_of_neg (by simp [success]),
      List.map_cons, path_of_analyzeFile outcome, inductionHypothesis.1]
    exact ⟨rfl, inductionHypothesis.2⟩
  | @skip path _ _ _ _ outcome _ inductionHypothesis =>
    have failure := succeeds_of_error outcome
    rw [List.filter_cons_of_neg (by simp [failure]), List.filter_cons_of_pos (by simp [failure]),
      List.map_cons, inductionHypothesis.2]
    exact ⟨inductionHypothesis.1, rfl⟩

theorem unique {others : List FileReport} {otherSkipped : List SkippedFile}
    (accounts : analysis.Accounts machine paths reports skipped)
    (also : analysis.Accounts machine paths others otherSkipped) :
    reports = others ∧ skipped = otherSkipped := by
  induction accounts generalizing others otherSkipped with
  | nil =>
    cases also
    exact ⟨rfl, rfl⟩
  | report outcome _ inductionHypothesis =>
    cases also with
    | report same rest =>
      obtain ⟨rfl, rfl⟩ := inductionHypothesis rest
      cases outcome.symm.trans same
      exact ⟨rfl, rfl⟩
    | skip failed rest => cases outcome.symm.trans failed
  | skip outcome _ inductionHypothesis =>
    cases also with
    | report success rest => cases outcome.symm.trans success
    | skip same rest =>
      obtain ⟨rfl, rfl⟩ := inductionHypothesis rest
      cases outcome.symm.trans same
      exact ⟨rfl, rfl⟩

theorem filter_succeeds (accounts : analysis.Accounts machine paths reports skipped) :
    analysis.Accounts machine (paths.filter (analysis.succeeds machine)) reports [] := by
  induction accounts with
  | nil => exact .nil
  | report outcome _ inductionHypothesis =>
    rw [List.filter_cons_of_pos (succeeds_of_ok outcome)]
    exact .report outcome inductionHypothesis
  | skip outcome _ inductionHypothesis =>
    rw [List.filter_cons_of_neg (by simp [succeeds_of_error outcome])]
    exact inductionHypothesis

theorem not_overflows (accounts : analysis.Accounts machine paths reports skipped) :
    ∀ path ∈ paths, ¬machine.Overflows path := by
  induction accounts with
  | nil => exact fun _ none => absurd none List.not_mem_nil
  | report outcome _ inductionHypothesis =>
    exact List.forall_mem_cons.mpr ⟨not_overflows_of_done outcome, inductionHypothesis⟩
  | skip outcome _ inductionHypothesis =>
    exact List.forall_mem_cons.mpr ⟨not_overflows_of_done outcome, inductionHypothesis⟩

theorem analyze_eq (accounts : analysis.Accounts machine paths reports []) :
    analysis.analyze machine paths =
      .done (if reports = [] then .error .noInput else .ok ⟨reports, []⟩) := by
  have length := accounts.length_add
  rw [List.length_nil, Nat.add_zero] at length
  by_cases none : reports = []
  · rw [none, List.length_nil] at length
    rw [if_pos none, List.length_eq_zero_iff.mp length.symm]
    rfl
  · have nonempty : paths ≠ [] := by
      rintro rfl
      exact none (List.length_eq_zero_iff.mp length)
    obtain ⟨⟨files, left⟩, result, also⟩ := analyze_of_ne_nil nonempty accounts.not_overflows
    obtain ⟨rfl, rfl⟩ := accounts.unique also
    rw [if_neg none]
    exact result

end Accounts

theorem accounts_of_analyze {paths : List Path} {corpus : CorpusReport}
    (analyzed : analysis.analyze machine paths = .done (.ok corpus)) :
    analysis.Accounts machine paths corpus.files corpus.skipped := by
  have nonempty : paths ≠ [] := by
    rintro rfl
    cases analyzed
  have fit : ∀ path ∈ paths, ¬machine.Overflows path := by
    intro path membership overflows
    have overflowed : analysis.analyze machine paths = .overflowed :=
      analyze_eq_overflowed_iff.mpr ⟨path, membership, overflows⟩
    cases overflowed.symm.trans analyzed
  obtain ⟨other, result, accounts⟩ := analyze_of_ne_nil nonempty fit
  cases result.symm.trans analyzed
  exact accounts

theorem map_path_of_analyze {paths : List Path} {corpus : CorpusReport}
    (analyzed : analysis.analyze machine paths = .done (.ok corpus)) :
    corpus.files.map FileReport.path = paths.filter (analysis.succeeds machine) :=
  (accounts_of_analyze analyzed).map_path.1

end Run

/-- A run fails only without any path, and ends without a result exactly if a checked sum is too
large for one of its files. Otherwise each path has one entry, the totals are those of a run over the
paths that succeed, and the page has a row for each report and for each skipped file. -/
theorem analyze_accounts (paths : List Path) :
    (∀ fault, analysis.analyze machine paths = .done (.error fault) ↔
      fault = .noInput ∧ paths = []) ∧
    (analysis.analyze machine paths = .overflowed ↔ ∃ path ∈ paths, machine.Overflows path) ∧
    (paths ≠ [] → (∀ path ∈ paths, ¬machine.Overflows path) →
      ∃ corpus, analysis.analyze machine paths = .done (.ok corpus) ∧
      analysis.Accounts machine paths corpus.files corpus.skipped ∧
      corpus.files.length + corpus.skipped.length = paths.length ∧
      corpus.files.map FileReport.path = paths.filter (analysis.succeeds machine) ∧
      corpus.skipped.map SkippedFile.path =
        (paths.filter fun path => !analysis.succeeds machine path) ∧
      analysis.analyze machine (paths.filter (analysis.succeeds machine)) =
        .done (if corpus.files = [] then .error .noInput else .ok ⟨corpus.files, []⟩) ∧
      corpus.SameTotals ⟨corpus.files, []⟩ ∧
      ∀ page : Page, ∃ (lines : List Page.Line) (rows : List FileReport),
        page.render corpus = String.ofList (lines.flatMap (· ++ ['\n'])) ∧
        rows.Perm corpus.files ∧
        Page.under "FILE SIZE SUMMARY:" lines = rows.flatMap page.fileRows ∧
        Page.under "SKIPPED FILES:" lines = corpus.skipped.map Page.skippedRow) := by
  refine ⟨?_, analyze_eq_overflowed_iff, ?_⟩
  · intro fault
    constructor
    · intro failed
      cases paths with
      | nil =>
        cases failed
        exact ⟨rfl, rfl⟩
      | cons path paths =>
        rw [analyze, if_neg (by simp)] at failed
        split at failed <;> cases failed
    · rintro ⟨rfl, rfl⟩
      rfl
  · intro nonempty fit
    obtain ⟨corpus, result, accounts⟩ := analyze_of_ne_nil nonempty fit
    refine ⟨corpus, result, accounts, accounts.length_add, accounts.map_path.1, accounts.map_path.2,
      accounts.filter_succeeds.analyze_eq, CorpusReport.sameTotals_of_files _ _, ?_⟩
    intro page
    exact ⟨page.lines corpus, corpus.filesBySize, rfl, corpus.filesBySize_perm,
      page.under_files corpus, page.under_skipped corpus⟩

/-- A file that is given twice, and between them a file that cannot be opened and one that the tool
takes for broken. -/
theorem analyze_accounts_mixed :
    let tool : Tool :=
      { executable := true
        content := .empty
        answer := fun arguments =>
          if arguments.getLast? = some "bad.so" then { ending := .exit 1 } else {} }
    let machine : Machine :=
      { files :=
          ⟨[(["lib.so"], .file .empty), (["shut.so"], .locked .denied), (["bad.so"], .file .empty),
            (["bin"], .directory), (["bin", "readelf"], .program tool)], []⟩
        programs := ["bin"] }
    let analysis : Analysis := { order := [.readelf] }
    let paths : List Path := [⟨"lib.so"⟩, ⟨"shut.so"⟩, ⟨"bad.so"⟩, ⟨"lib.so"⟩]
    paths ≠ [] ∧ (∀ path ∈ paths, ¬machine.Overflows path) ∧
    ∃ corpus, analysis.analyze machine paths = .done (.ok corpus) ∧
      corpus.files.map FileReport.path = [⟨"lib.so"⟩, ⟨"lib.so"⟩] ∧
      corpus.skipped.map SkippedFile.path = [⟨"shut.so"⟩, ⟨"bad.so"⟩] ∧
      analysis.analyze machine [⟨"lib.so"⟩, ⟨"lib.so"⟩] = .done (.ok ⟨corpus.files, []⟩) := by
  intro tool machine analysis paths
  have nonempty : paths ≠ [] := List.cons_ne_nil _ _
  have fit : ∀ path ∈ paths, ¬machine.Overflows path := by
    simp only [← analyzeFile_eq_overflowed_iff analysis]
    decide
  have succeeding : paths.filter (analysis.succeeds machine) = [⟨"lib.so"⟩, ⟨"lib.so"⟩] := by
    decide
  have failing : (paths.filter fun path => !analysis.succeeds machine path) =
      [⟨"shut.so"⟩, ⟨"bad.so"⟩] := by
    decide
  obtain ⟨corpus, result, _, _, reported, skipped, clean, _⟩ :=
    (analyze_accounts analysis machine paths).2.2 nonempty fit
  rw [succeeding] at reported clean
  have some : corpus.files ≠ [] := by
    intro none
    rw [none] at reported
    cases reported
  rw [if_neg some] at clean
  exact ⟨nonempty, fit, corpus, result, reported, skipped.trans failing, clean⟩

/-- Two files, of which one has sections that are too large together: none of them has an entry. -/
theorem analyze_oversized :
    let machine : Machine :=
      { files := ⟨[(["lib.so"], .file .empty), (["big.so"], .file oversizedImage)], []⟩
        programs := [] }
    let analysis : Analysis := {}
    let paths : List Path := [⟨"lib.so"⟩, ⟨"big.so"⟩]
    paths ≠ [] ∧ analysis.analyze machine paths = .overflowed ∧
      ¬∃ corpus, analysis.analyze machine paths = .done (.ok corpus) := by
  intro machine analysis paths
  have overflowed : analysis.analyze machine paths = .overflowed :=
    analyze_eq_overflowed_iff.mpr
      ⟨⟨"big.so"⟩, by simp [paths], rfl, oversizedImage, rfl, isOversized_image _ _⟩
  refine ⟨List.cons_ne_nil _ _, overflowed, ?_⟩
  rintro ⟨corpus, result⟩
  cases overflowed.symm.trans result

end Analysis

end SymbolFootprint
