import SymbolFootprint.Proofs.Discovery.Repetition
import SymbolFootprint.Proofs.Path.AssemblyName
import SymbolFootprint.Proofs.Pattern.Matching

/-!
The files that are found where no pattern is given.

Whether a name fits the standard pattern is read off the expression that its text stands for
(`standardExpr`), part by part. What is left between the beginning and the ending of a name is told
by the rest of the expression alone, however often the name repeats them. The names that fit
(`foundIn_standardExpr_iff`) are names of shared objects, so a file that is found below a directory
is also taken as an argument of its own, and they are names for an assembly with an ending
(`Discovery.standard_selects_compiled`).
-/

namespace SymbolFootprint

theorem CharSet.contains_single {c d : Char} : (single c).contains d = true ↔ d = c := by
  rw [single, contains, Bool.and_eq_true, decide_eq_true_eq, decide_eq_true_eq]
  constructor
  · rintro ⟨notBelow, notAbove⟩
    exact Char.le_antisymm notAbove notBelow
  · rintro rfl
    exact ⟨Char.le_refl d, Char.le_refl d⟩

namespace Pattern

namespace Expr

section Parts

variable {expr : Expr} {before after : Option Char} {piece : List Char}

theorem fits_look_seq_iff {test : Look} :
    (Expr.seq (.look test) expr).Fits before piece after ↔
      test.holds before (piece.head?.or after) = true ∧ expr.Fits before piece after := by
  constructor
  · rintro ⟨front, back, rfl, ⟨rfl, holds⟩, fits⟩
    exact ⟨holds, fits⟩
  · rintro ⟨holds, fits⟩
    exact ⟨[], piece, rfl, ⟨rfl, holds⟩, fits⟩

/-- The characters one after the other, and behind them what fits the expression. -/
def literals (text : List Char) (behind : Expr) : Expr :=
  text.foldr (fun c next => .seq (.oneOf (.single c)) next) behind

theorem isSatisfiable_literals_iff {text : List Char} :
    (literals text expr).IsSatisfiable ↔ expr.IsSatisfiable := by
  induction text with
  | nil => rfl
  | cons c text inductionHypothesis => exact (and_iff_right trivial).trans inductionHypothesis

theorem fits_literals_iff {text : List Char} :
    (literals text expr).Fits before piece after ↔
      ∃ rest, piece = text ++ rest ∧ expr.Fits (text.getLast?.or before) rest after := by
  induction text generalizing before piece with
  | nil => simp [literals]
  | cons c text inductionHypothesis =>
    rw [Pieces.last_cons]
    constructor
    · rintro ⟨front, back, rfl, ⟨d, rfl, inside⟩, fits⟩
      cases CharSet.contains_single.mp inside
      obtain ⟨rest, rfl, fitsBehind⟩ := inductionHypothesis.mp fits
      exact ⟨rest, rfl, fitsBehind⟩
    · rintro ⟨rest, rfl, fitsBehind⟩
      exact ⟨[c], text ++ rest, rfl, ⟨c, rfl, CharSet.contains_single.mpr rfl⟩,
        inductionHypothesis.mpr ⟨rest, rfl, fitsBehind⟩⟩

/-- Any number of characters out of the set. -/
def many (set : CharSet) : Expr :=
  .repeated (.oneOf set) 0 none

theorem power_oneOf_iff {set : CharSet} {count : ℕ} :
    (Expr.oneOf set).Fits.power count before piece after ↔
      piece.length = count ∧ ∀ c ∈ piece, set.contains c = true := by
  induction count generalizing before piece with
  | zero =>
    rw [Pieces.power, List.length_eq_zero_iff, iff_self_and]
    rintro rfl
    exact List.forall_mem_nil _
  | succ count inductionHypothesis =>
    constructor
    · rintro ⟨front, back, rfl, ⟨c, rfl, inside⟩, fits⟩
      obtain ⟨length, allInside⟩ := inductionHypothesis.mp fits
      exact ⟨congrArg (· + 1) length, List.forall_mem_cons.mpr ⟨inside, allInside⟩⟩
    · rintro ⟨length, allInside⟩
      obtain ⟨c, back, rfl⟩ := List.exists_cons_of_length_eq_add_one length
      obtain ⟨inside, backInside⟩ := List.forall_mem_cons.mp allInside
      exact ⟨[c], back, rfl, ⟨c, rfl, inside⟩,
        inductionHypothesis.mpr ⟨Nat.succ.inj length, backInside⟩⟩

theorem fits_many_seq_iff {set : CharSet} :
    (Expr.seq (many set) expr).Fits before piece after ↔
      ∃ front rest, piece = front ++ rest ∧ (∀ c ∈ front, set.contains c = true) ∧
        expr.Fits (front.getLast?.or before) rest after := by
  constructor
  · rintro ⟨front, rest, rfl, ⟨count, _, row⟩, fits⟩
    exact ⟨front, rest, rfl, (power_oneOf_iff.mp row).2, fits⟩
  · rintro ⟨front, rest, rfl, inside, fits⟩
    refine ⟨front, rest, rfl, ⟨front.length, ⟨Nat.zero_le _, ?_⟩, ?_⟩, fits⟩
    · exact fun bound isBound => nomatch isBound
    · exact power_oneOf_iff.mpr ⟨rfl, inside⟩

end Parts

end Expr

open Pattern.Expr

/-- What the text of the standard pattern stands for. A dot stands for all characters but the line
feed. -/
def standardExpr : Expr :=
  .seq (.look .textStart) <| literals "libaot-".toList <|
    .seq (many (.complement (.single '\n'))) <| literals ".so".toList <| .look .textStop

theorem ofText_standardText : ofText standardText = .ok ⟨standardText, standardExpr⟩ := rfl

theorem standardExpr_isSatisfiable : standardExpr.IsSatisfiable := by
  refine ⟨trivial, isSatisfiable_literals_iff.mpr ⟨⟨trivial, ?_⟩, ?_⟩⟩
  · exact fun bound isBound => nomatch isBound
  · exact isSatisfiable_literals_iff.mpr trivial

theorem fits_standardExpr_iff {before after : Option Char} {piece : List Char} :
    standardExpr.Fits before piece after ↔
      before = none ∧ after = none ∧
        ∃ middle, '\n' ∉ middle ∧ piece = "libaot-".toList ++ (middle ++ ".so".toList) := by
  have noLineFeed (middle : List Char) :
      (∀ c ∈ middle, (CharSet.complement (.single '\n')).contains c = true) ↔
        '\n' ∉ middle := by
    simp only [CharSet.contains, Bool.not_eq_true', ← Bool.not_eq_true, CharSet.contains_single]
    exact ⟨fun differs inside => differs _ inside rfl, fun absent c inside isLineFeed =>
      absent (isLineFeed ▸ inside)⟩
  rw [standardExpr, fits_look_seq_iff]
  simp only [fits_literals_iff, fits_many_seq_iff, noLineFeed]
  simp only [Fits, Look.holds, decide_eq_true_eq]
  constructor
  · rintro ⟨begins, _, rfl, middle, _, rfl, free, _, rfl, rfl, ends⟩
    exact ⟨begins, ends, middle, free, by rw [List.append_nil]⟩
  · rintro ⟨begins, ends, middle, free, rfl⟩
    exact ⟨begins, _, rfl, middle, _, rfl, free, [], by rw [List.append_nil], rfl, ends⟩

theorem foundIn_standardExpr_iff {text : List Char} :
    standardExpr.foundIn text = true ↔
      ∃ middle, '\n' ∉ middle ∧ text = "libaot-".toList ++ (middle ++ ".so".toList) := by
  rw [foundIn_iff standardExpr_isSatisfiable]
  simp only [fits_standardExpr_iff, List.getLast?_eq_none_iff, List.head?_eq_none_iff]
  constructor
  · rintro ⟨_, piece, _, rfl, rfl, rfl, named⟩
    rwa [List.nil_append, List.append_nil]
  · intro named
    exact ⟨[], text, [], by rw [List.nil_append, List.append_nil], rfl, rfl, named⟩

theorem standard_fits_iff {name : String} :
    (⟨standardText, standardExpr⟩ : Pattern).fits name = true ↔
      ∃ middle : String, '\n' ∉ middle.toList ∧ name = "libaot-" ++ middle ++ ".so" := by
  rw [fits, foundIn_standardExpr_iff]
  constructor
  · rintro ⟨middle, free, whole⟩
    refine ⟨String.ofList middle, ?_, ?_⟩
    · rwa [String.toList_ofList]
    · rw [← String.toList_inj, whole, String.toList_append, String.toList_append,
        String.toList_ofList (l := middle), List.append_assoc]
  · rintro ⟨middle, free, rfl⟩
    refine ⟨middle.toList, free, ?_⟩
    rw [String.toList_append, String.toList_append, List.append_assoc]

example : (⟨standardText, standardExpr⟩ : Pattern).fits "libaot-x\n.so" = false := by decide

end Pattern

/-- A name with the beginning and the shorter ending has one of the two endings behind the assembly.
-/
theorem NamedAfter.ending {assembly middle : String}
    (named : NamedAfter assembly ("libaot-" ++ middle ++ ".so")) :
    "libaot-" ++ middle ++ ".so" = "libaot-" ++ assembly ++ ".dll.so" ∨
      "libaot-" ++ middle ++ ".so" = "libaot-" ++ assembly ++ ".so" ∧
        ¬".dll".toList <:+ assembly.toList := by
  generalize whole : "libaot-" ++ middle ++ ".so" = name at named
  cases named with
  | library => exact .inl rfl
  | shared notLibrary => exact .inr ⟨rfl, notLibrary⟩
  | bare notShared =>
    rw [String.append_assoc, String.append_right_inj] at whole
    exact absurd ⟨middle.toList, by rw [← whole, String.toList_append]⟩ notShared
  | other notStart =>
    refine absurd ⟨(middle ++ ".so").toList, ?_⟩ notStart
    rw [← whole, String.append_assoc, String.toList_append (s := "libaot-")]

namespace Discovery

variable {discovery : Discovery} {tree : FileTree} {argument path : Path}

theorem leadsToFile_of_mem_filesFor (isTree : tree.IsTree) {directory : Location}
    (leads : tree.resolve argument = .ok (directory, .directory))
    (listed : path ∈ discovery.filesFor tree argument) :
    (∃ location, tree.LeadsToFile path location) ∧ discovery.fitsName path = true := by
  obtain ⟨location, found⟩ := (mem_filesFor_iff isTree).mp listed
  refine ⟨⟨location, found.leadsToFile isTree⟩, ?_⟩
  rw [filesFor, leads] at listed
  exact (List.mem_filter.mp listed).2

/-- A file with the name of a shared object is taken as an argument, whatever the pattern is. -/
theorem files_singleton {location : Location} {name : String}
    (leads : tree.LeadsToFile path location) (named : path.fileName? = some name)
    (shared : IsSharedName name) : discovery.files tree [path] = [path] := by
  obtain ⟨entry, regular, arrived⟩ := leads
  rw [files, List.flatMap_singleton, filesFor_of_regular regular arrived,
    if_pos (accepts_iff.mpr ⟨name, named, .inl shared⟩), List.mergeSort_singleton]
  rfl

/-- The names that fit the standard pattern are those of compiled assemblies. Of the name of a file
that is found below a directory, the name of the assembly leaves out the beginning and the one
ending that the name has. The file is also taken as an argument, whatever the pattern is then. -/
theorem standard_selects_compiled :
    ∃ standard : Discovery, Discovery.standard = .ok standard ∧
      (∀ name, standard.pattern.fits name = true ↔
        ∃ middle : String, '\n' ∉ middle.toList ∧ name = "libaot-" ++ middle ++ ".so") ∧
      ∀ tree : FileTree, tree.IsTree → ∀ argument directory,
        tree.resolve argument = .ok (directory, .directory) →
        ∀ path ∈ standard.filesFor tree argument,
          (path.fileName? = some ("libaot-" ++ path.assemblyName ++ ".dll.so") ∨
            path.fileName? = some ("libaot-" ++ path.assemblyName ++ ".so") ∧
              ¬".dll".toList <:+ path.assemblyName.toList) ∧
          ∀ discovery : Discovery, discovery.files tree [path] = [path] := by
  refine ⟨⟨⟨Pattern.standardText, Pattern.standardExpr⟩, true⟩, ?_, ?_, ?_⟩
  · rw [standard, Pattern.ofText_standardText]
    rfl
  · exact fun name => Pattern.standard_fits_iff
  · intro tree isTree argument directory leads path listed
    obtain ⟨⟨location, isFile⟩, fitsName⟩ := leadsToFile_of_mem_filesFor isTree leads listed
    obtain ⟨name, named, fits⟩ := fitsName_iff.mp fitsName
    obtain ⟨middle, _, rfl⟩ := Pattern.standard_fits_iff.mp fits
    constructor
    · have own := (Path.assemblyName_eq_iff named path.assemblyName).mp rfl
      simp only [named, Option.some.injEq]
      exact own.ending
    · have nonempty : "libaot-" ++ middle ≠ "" := fun empty => by
        simpa using congrArg String.toList empty
      exact fun discovery => files_singleton isFile named ⟨_, nonempty, rfl⟩

/-- A directory with a library of compiled code, and a link to the directory. -/
def linkedLibrary : FileTree :=
  ⟨[(["build"], .directory), (["build", "libaot-libaot-x.so.dll.so"], .file .empty),
    (["out"], .link "build")], []⟩

theorem linkedLibrary_isTree : linkedLibrary.IsTree where
  distinct := by decide
  named := by decide
  placed := by
    intro entry inside
    simp only [linkedLibrary, List.mem_cons, List.not_mem_nil, or_false] at inside
    rcases inside with rfl | rfl | rfl <;> rfl

/-- The name repeats the beginning and an ending, and the directory is reached through a link. -/
theorem standard_selects_compiled_linked :
    let path : Path := ⟨"out/libaot-libaot-x.so.dll.so"⟩
    linkedLibrary.IsTree ∧
      linkedLibrary.resolve ⟨"out"⟩ = .ok (["build"], .directory) ∧
      (∃ standard, Discovery.standard = .ok standard ∧
        path ∈ standard.filesFor linkedLibrary ⟨"out"⟩) ∧
      path.assemblyName = "libaot-x.so" ∧
      everyName.files linkedLibrary [path] = [path] := by
  intro path
  obtain ⟨standard, isStandard, fits, selected⟩ := standard_selects_compiled
  have leads : linkedLibrary.resolve ⟨"out"⟩ = .ok (["build"], .directory) := rfl
  have taken : standard.pattern.fits "libaot-libaot-x.so.dll.so" = true :=
    (fits _).mpr ⟨"libaot-x.so.dll", by decide, rfl⟩
  have found : standard.FoundFor linkedLibrary ⟨"out"⟩
      ((⟨"out"⟩ : Path).under ([] ++ ["libaot-libaot-x.so.dll.so"]))
      (["build"] ++ ([] ++ ["libaot-libaot-x.so.dll.so"])) :=
    .below leads rfl trivial (.inr rfl) taken
  have spelled : (⟨"out"⟩ : Path).under ([] ++ ["libaot-libaot-x.so.dll.so"]) = path := by decide
  rw [spelled] at found
  have listed := (mem_filesFor_iff linkedLibrary_isTree).mpr ⟨_, found⟩
  obtain ⟨_, asArgument⟩ := selected linkedLibrary linkedLibrary_isTree _ _ leads path listed
  refine ⟨linkedLibrary_isTree, leads, ⟨standard, isStandard, listed⟩, ?_, asArgument everyName⟩
  decide

end Discovery

end SymbolFootprint
