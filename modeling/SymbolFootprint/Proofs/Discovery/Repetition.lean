import Mathlib.Data.List.Pairwise
import SymbolFootprint.Proofs.Analysis.Accounting
import SymbolFootprint.Proofs.Discovery.Exactness

/-!
When no file is listed twice.

In a tree without links, the place that a path without `..` leads to is told by how the path begins
and by its names. Both make up the components of the path (`Path.parts_eq_iff`), so two different
paths to one file must begin in different ways. The list is free of such paths exactly if arguments
that stand for a common file begin alike (`Discovery.files_apart_iff`).
-/

namespace SymbolFootprint

namespace Path

theorem startPart?_ne_name (pieces : List (List Char)) (text : String) :
    startPart? pieces ≠ some (.name text) := by
  unfold startPart?
  split <;> exact fun same => nomatch same

theorem append_names_inj {start otherStart : Option PathPart} {names otherNames : List String}
    (notName : ∀ text, start ≠ some (.name text))
    (otherNotName : ∀ text, otherStart ≠ some (.name text))
    (same : start.toList ++ names.map .name = otherStart.toList ++ otherNames.map .name) :
    start = otherStart ∧ names = otherNames := by
  have namesInjective : Function.Injective (List.map PathPart.name) :=
    List.map_injective_iff.mpr fun _ _ same => PathPart.name.inj same
  cases start with
  | none =>
    cases otherStart with
    | none => exact ⟨rfl, namesInjective same⟩
    | some part =>
      cases names with
      | nil => cases same
      | cons name names =>
        exact absurd (congrArg some (List.cons.inj same).1.symm) (otherNotName name)
  | some part =>
    cases otherStart with
    | none =>
      cases otherNames with
      | nil => cases same
      | cons name names => exact absurd (congrArg some (List.cons.inj same).1) (notName name)
    | some otherPart =>
      obtain ⟨first, rest⟩ := List.cons.inj same
      exact ⟨congrArg some first, namesInjective rest⟩

theorem parts_eq_iff {path other : Path} (noUp : .up ∉ path.parts) (otherNoUp : .up ∉ other.parts) :
    path.parts = other.parts ↔ path.start? = other.start? ∧ path.names = other.names := by
  rw [path.parts_eq_names noUp, other.parts_eq_names otherNoUp]
  constructor
  · exact append_names_inj (startPart?_ne_name path.pieces) (startPart?_ne_name other.pieces)
  · rintro ⟨start, names⟩
    rw [start, names]

end Path

namespace FileTree

/-- The paths do not lead to one file. -/
def Apart (tree : FileTree) (path other : Path) : Prop :=
  ∀ location, tree.LeadsToFile path location → ¬tree.LeadsToFile other location

instance (tree : FileTree) : Std.Symm tree.Apart where
  symm _ _ apart location leads otherLeads := apart location otherLeads leads

section Leading

variable {tree : FileTree} {path other : Path} {location otherLocation : Location}

theorem LeadsToFile.unique (leads : tree.LeadsToFile path location)
    (otherLeads : tree.LeadsToFile path otherLocation) : location = otherLocation := by
  obtain ⟨_, _, resolved⟩ := leads
  obtain ⟨_, _, otherResolved⟩ := otherLeads
  exact (Prod.mk.inj (Except.ok.inj (resolved.symm.trans otherResolved))).1

variable (linkFree : tree.LinkFree) (noUp : .up ∉ path.parts) (otherNoUp : .up ∉ other.parts)

include linkFree noUp

theorem LeadsToFile.eq_placeOf (leads : tree.LeadsToFile path location) :
    location = tree.placeOf path := by
  obtain ⟨_, _, resolved⟩ := leads
  exact location_of_resolve linkFree noUp resolved

include otherNoUp

/-- Paths that begin alike lead to one file only if they are the same. -/
theorem parts_eq_of_leadsToFile (leads : tree.LeadsToFile path location)
    (otherLeads : tree.LeadsToFile other location) (alike : path.start? = other.start?) :
    path.parts = other.parts := by
  apply (Path.parts_eq_iff noUp otherNoUp).mpr
  have places : tree.placeOf path = tree.placeOf other :=
    (leads.eq_placeOf linkFree noUp).symm.trans (otherLeads.eq_placeOf linkFree otherNoUp)
  rw [placeOf, placeOf, alike] at places
  exact ⟨alike, List.append_cancel_left places⟩

theorem location_eq_of_parts_eq (leads : tree.LeadsToFile path location)
    (otherLeads : tree.LeadsToFile other otherLocation) (same : path.parts = other.parts) :
    location = otherLocation := by
  obtain ⟨start, names⟩ := (Path.parts_eq_iff noUp otherNoUp).mp same
  rw [leads.eq_placeOf linkFree noUp, otherLeads.eq_placeOf linkFree otherNoUp, placeOf, placeOf,
    start, names]

end Leading

end FileTree

namespace Discovery

/-- Arguments that stand for a common file begin alike: all of them with a slash, or all of them
with a dot, or all of them with a name. -/
def BeginAlike (discovery : Discovery) (tree : FileTree) (arguments : List Path) : Prop :=
  ∀ argument ∈ arguments, ∀ other ∈ arguments, ∀ path otherPath location,
    discovery.FoundFor tree argument path location →
      discovery.FoundFor tree other otherPath location → argument.start? = other.start?

namespace FoundFor

variable {discovery : Discovery} {tree : FileTree} {argument path : Path} {location : Location}
  (isTree : tree.IsTree)

include isTree

theorem start?_eq (found : discovery.FoundFor tree argument path location) :
    path.start? = argument.start? := by
  cases found with
  | itself => rfl
  | below leads entry _ _ _ =>
    have nonempty := (FileTree.resolve_eq_ok_iff.mp leads).1
    exact Path.start?_under nonempty (by simp) (FileTree.isEntryName_of_found_below isTree entry)

theorem up_not_mem (found : discovery.FoundFor tree argument path location)
    (noUp : .up ∉ argument.parts) : .up ∉ path.parts := by
  cases found with
  | itself => exact noUp
  | below leads entry _ _ _ =>
    have nonempty := (FileTree.resolve_eq_ok_iff.mp leads).1
    rw [Path.parts_under nonempty (by simp) (FileTree.isEntryName_of_found_below isTree entry)]
    simp [noUp]

theorem leadsToFile (found : discovery.FoundFor tree argument path location) :
    tree.LeadsToFile path location := by
  cases found with
  | itself leads _ _ => exact leads
  | below leads entry regular _ _ =>
    exact ⟨_, regular, FileTree.resolve_under isTree regular leads (by simp) entry⟩

end FoundFor

section Files

variable (discovery : Discovery) {tree : FileTree} (isTree : tree.IsTree)
  (linkFree : tree.LinkFree) {arguments : List Path}
  (noUp : ∀ argument ∈ arguments, .up ∉ argument.parts)

include isTree

theorem exists_leadsToFile {path : Path} (listed : path ∈ discovery.files tree arguments) :
    ∃ location, tree.LeadsToFile path location := by
  obtain ⟨_, _, location, found⟩ := finds_of_mem_files discovery isTree listed
  exact ⟨location, found.leadsToFile isTree⟩

include linkFree noUp

theorem pairwise_apart (alike : discovery.BeginAlike tree arguments) :
    (discovery.files tree arguments).Pairwise tree.Apart := by
  refine (pairwise_files discovery tree arguments).imp_of_mem ?_
  intro path other listed otherListed before location leads otherLeads
  obtain ⟨argument, given, _, found⟩ := finds_of_mem_files discovery isTree listed
  obtain ⟨otherArgument, otherGiven, _, otherFound⟩ :=
    finds_of_mem_files discovery isTree otherListed
  obtain rfl := (found.leadsToFile isTree).unique leads
  obtain rfl := (otherFound.leadsToFile isTree).unique otherLeads
  have begins : path.start? = other.start? := by
    rw [found.start?_eq isTree, otherFound.start?_eq isTree]
    exact alike argument given otherArgument otherGiven path other _ found otherFound
  have same : path.parts = other.parts :=
    FileTree.parts_eq_of_leadsToFile linkFree (found.up_not_mem isTree (noUp _ given))
      (otherFound.up_not_mem isTree (noUp _ otherGiven)) leads otherLeads begins
  exact before.ne (by rw [Path.key, Path.key, same])

/-- A path in the list leads to each file that an argument stands for. -/
theorem exists_mem_files_of_foundFor {argument path : Path} {location : Location}
    (given : argument ∈ arguments) (found : discovery.FoundFor tree argument path location) :
    ∃ kept ∈ discovery.files tree arguments,
      kept.start? = argument.start? ∧ tree.LeadsToFile kept location := by
  obtain ⟨kept, listed, same⟩ :=
    exists_mem_files discovery isTree ⟨argument, given, location, found⟩
  obtain ⟨keptArgument, keptGiven, keptLocation, keptFound⟩ :=
    finds_of_mem_files discovery isTree listed
  have parts : kept.parts = path.parts := decide_eq_true_eq.mp same
  have keptNoUp := keptFound.up_not_mem isTree (noUp _ keptGiven)
  have pathNoUp := found.up_not_mem isTree (noUp _ given)
  have leads := keptFound.leadsToFile isTree
  obtain rfl : keptLocation = location :=
    FileTree.location_eq_of_parts_eq linkFree keptNoUp pathNoUp leads
      (found.leadsToFile isTree) parts
  refine ⟨kept, listed, ?_, leads⟩
  rw [((Path.parts_eq_iff keptNoUp pathNoUp).mp parts).1, found.start?_eq isTree]

theorem beginAlike_of_pairwise_apart
    (apart : (discovery.files tree arguments).Pairwise tree.Apart) :
    discovery.BeginAlike tree arguments := by
  intro argument given other otherGiven path otherPath location found otherFound
  obtain ⟨kept, listed, start, leads⟩ :=
    exists_mem_files_of_foundFor discovery isTree linkFree noUp given found
  obtain ⟨otherKept, otherListed, otherStart, otherLeads⟩ :=
    exists_mem_files_of_foundFor discovery isTree linkFree noUp otherGiven otherFound
  have single : kept = otherKept := by
    by_contra differs
    exact apart.forall listed otherListed differs location leads otherLeads
  rw [← start, ← otherStart, single]

end Files

/-- Every path in the list leads to a file. No two lead to the same one exactly if arguments that
stand for a common file begin alike, and then no file is counted twice in a report on the list. -/
theorem files_apart_iff (discovery : Discovery) {machine : Machine} {arguments : List Path}
    (isTree : machine.files.IsTree) (linkFree : machine.files.LinkFree)
    (noUp : ∀ argument ∈ arguments, .up ∉ argument.parts) :
    (∀ path ∈ discovery.files machine.files arguments,
        ∃ location, machine.files.LeadsToFile path location) ∧
      ((discovery.files machine.files arguments).Pairwise machine.files.Apart ↔
        discovery.BeginAlike machine.files arguments) ∧
      (discovery.BeginAlike machine.files arguments → ∀ analysis : Analysis, ∀ corpus,
        analysis.analyze machine (discovery.files machine.files arguments) = .done (.ok corpus) →
          (corpus.files.map FileReport.path).Pairwise machine.files.Apart) := by
  have apart := pairwise_apart discovery isTree linkFree noUp
  refine ⟨?_, ⟨?_, apart⟩, ?_⟩
  · exact fun path => exists_leadsToFile discovery isTree
  · exact beginAlike_of_pairwise_apart discovery isTree linkFree noUp
  · intro alike analysis corpus analyzed
    rw [Analysis.map_path_of_analyze analyzed]
    exact (apart alike).sublist List.filter_sublist

/-- Arguments that overlap and are repeated, and all begin with a name. -/
theorem files_apart_overlapping :
    let machine : Machine := { files := twoLibraries, programs := [] }
    let arguments : List Path := [⟨"lib"⟩, ⟨"lib//x"⟩, ⟨"lib/./a.so"⟩, ⟨"lib"⟩]
    machine.files.IsTree ∧ machine.files.LinkFree ∧
      (∀ argument ∈ arguments, .up ∉ argument.parts) ∧
      (everyName.files machine.files arguments).Pairwise machine.files.Apart := by
  intro machine arguments
  have linkFree : machine.files.LinkFree := by
    intro entry inside target
    simp only [machine, twoLibraries, List.mem_cons, List.not_mem_nil, or_false] at inside
    rcases inside with rfl | rfl | rfl | rfl <;> intro same <;> cases same
  have noUp : ∀ argument ∈ arguments, .up ∉ argument.parts := by decide
  have withName : ∀ argument ∈ arguments, argument.start? = none := by decide
  have alike : everyName.BeginAlike machine.files arguments := by
    intro argument given other otherGiven _ _ _ _ _
    rw [withName argument given, withName other otherGiven]
  have apart := (files_apart_iff everyName twoLibraries_isTree linkFree noUp).2.1
  exact ⟨twoLibraries_isTree, linkFree, noUp, apart.mpr alike⟩

/-- With a dot in front, the path of a file is another path. -/
theorem files_dotted :
    let machine : Machine :=
      { files := ⟨[(["libmonosgen-2.0.so"], .file .empty)], []⟩, programs := [] }
    let arguments : List Path := [⟨"./libmonosgen-2.0.so"⟩, ⟨"libmonosgen-2.0.so"⟩]
    machine.files.IsTree ∧ machine.files.LinkFree ∧
      (∀ argument ∈ arguments, .up ∉ argument.parts) ∧ (arguments.map Path.parts).Nodup ∧
      everyName.files machine.files arguments = arguments ∧
      ∀ path ∈ arguments, machine.files.LeadsToFile path ["libmonosgen-2.0.so"] := by
  intro machine arguments
  have placed : ∀ entry ∈ machine.files.entries,
      machine.files.entry? entry.1.dropLast = some .directory := by
    intro entry inside
    obtain rfl := List.mem_singleton.mp inside
    rfl
  have linkFree : machine.files.LinkFree := by
    intro entry inside target
    obtain rfl := List.mem_singleton.mp inside
    exact fun same => nomatch same
  have listed : everyName.files machine.files arguments = arguments := by
    have found : arguments.flatMap (everyName.filesFor machine.files) = arguments := by rfl
    rw [files, found, List.mergeSort_of_pairwise (by decide)]
    decide
  refine ⟨⟨by decide, by decide, placed⟩, linkFree, by decide, by decide, listed, ?_⟩
  intro path given
  refine ⟨.file .empty, trivial, ?_⟩
  simp only [arguments, List.mem_cons, List.not_mem_nil, or_false] at given
  rcases given with rfl | rfl <;> rfl

end Discovery

end SymbolFootprint
