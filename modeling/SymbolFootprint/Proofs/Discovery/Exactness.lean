import Mathlib.Data.List.Sort
import Mathlib.Data.List.TakeWhile
import SymbolFootprint.Proofs.FileTree.Lookup
import SymbolFootprint.Proofs.Path.Order
import SymbolFootprint.Proofs.Size.Order

/-!
Which files the arguments stand for.

An argument stands for itself or for files below it (`Discovery.FoundFor`). What is listed for one
argument is just what the argument stands for (`mem_filesFor_iff`). The list for all of them is
sorted, and a path is left out only where the same path is kept (`key_mem_withoutRepetitions`), so
the keys in the list are the keys of all that is found, in a strictly increasing order
(`files_exact`).
-/

namespace SymbolFootprint

/-- A name that ends in the extension of shared objects and has something before it. -/
def IsSharedName (name : String) : Prop :=
  ∃ stem, stem ≠ "" ∧ name = stem ++ ".so"

namespace Path

/-- The extension is what follows the last dot, where that dot is not the first character. -/
theorem extension?_eq_some_iff {path : Path} {ending : String} :
    path.extension? = some ending ↔
      '.' ∉ ending.toList ∧
        ∃ stem, stem ≠ "" ∧ path.fileName? = some (stem ++ "." ++ ending) := by
  rw [extension?, Option.bind_eq_some_iff]
  dsimp only
  constructor
  · rintro ⟨name, isName, cut⟩
    have whole := List.takeWhile_append_dropWhile (p := fun c => decide (c ≠ '.'))
      (l := name.toList.reverse)
    split at cut
    · next c rest behind =>
      rw [behind] at whole
      cases cut
      refine ⟨?_, String.ofList (rest.reverse ++ [c]), ?_, ?_⟩
      · rw [String.toList_ofList, List.mem_reverse]
        intro dot
        simpa using List.mem_takeWhile_imp dot
      · intro empty
        simpa using congrArg String.toList empty
      · have own := List.reverse_eq_iff.mp whole.symm
        rw [isName, Option.some.injEq, ← String.toList_inj]
        simpa [-List.takeWhile_append_dropWhile] using own
    · cases cut
  · rintro ⟨noDot, stem, nonempty, isName⟩
    refine ⟨_, isName, ?_⟩
    have noDotBehind : ∀ c ∈ ending.toList.reverse, decide (c ≠ '.') = true := fun c inside =>
      decide_eq_true fun isDot => noDot (isDot ▸ List.mem_reverse.mp inside)
    have reversed : (stem ++ "." ++ ending).toList.reverse =
        ending.toList.reverse ++ '.' :: stem.toList.reverse := by
      simp
    have stemNonempty : stem.toList.reverse ≠ [] := fun empty =>
      nonempty (String.toList_eq_nil_iff.mp (List.reverse_eq_nil_iff.mp empty))
    obtain ⟨c, rest, stemReversed⟩ := List.exists_cons_of_ne_nil stemNonempty
    rw [reversed, List.dropWhile_append_of_pos noDotBehind,
      List.takeWhile_append_of_pos noDotBehind, stemReversed]
    simp

end Path

namespace FileTree

theorem below?_eq_some_iff {directory location names : Location} :
    below? directory location = some names ↔ names ≠ [] ∧ location = directory ++ names := by
  rw [below?]
  constructor
  · intro below
    split at below
    · next within =>
      obtain ⟨rest, rfl⟩ := List.isPrefixOf_iff_prefix.mp within.1
      rw [List.drop_left, Option.some.injEq] at below
      subst below
      refine ⟨fun empty => ?_, rfl⟩
      simp [empty] at within
    · cases below
  · rintro ⟨below, rfl⟩
    rw [if_pos, List.drop_left]
    refine ⟨List.isPrefixOf_iff_prefix.mpr (List.prefix_append directory names), ?_⟩
    rw [List.length_append]
    exact Nat.lt_add_of_pos_right (List.length_pos_iff.mpr below)

theorem mem_filesBelow_iff {tree : FileTree} (isTree : tree.IsTree) {directory names : Location} :
    names ∈ tree.filesBelow directory ↔
      names ≠ [] ∧ ∃ entry : Entry,
        entry.IsRegular ∧ tree.entry? (directory ++ names) = some entry := by
  rw [filesBelow, List.mem_filterMap]
  constructor
  · rintro ⟨⟨location, entry⟩, inside, listed⟩
    have regular : entry.IsRegular ∧ below? directory location = some names := by
      cases entry with
      | file content => exact ⟨trivial, listed⟩
      | locked fault => exact ⟨trivial, listed⟩
      | program tool => exact ⟨trivial, listed⟩
      | directory => cases listed
      | link target => cases listed
    obtain ⟨below, rfl⟩ := below?_eq_some_iff.mp regular.2
    have behind : directory ++ names ≠ [] := List.append_ne_nil_of_right_ne_nil directory below
    exact ⟨below, entry, regular.1, (entry?_eq_some_iff isTree behind).mpr inside⟩
  · rintro ⟨below, entry, regular, found⟩
    have behind : directory ++ names ≠ [] := List.append_ne_nil_of_right_ne_nil directory below
    refine ⟨(directory ++ names, entry), mem_of_found behind found, ?_⟩
    have own : below? directory (directory ++ names) = some names :=
      below?_eq_some_iff.mpr ⟨below, rfl⟩
    cases entry with
    | file content => exact own
    | locked fault => exact own
    | program tool => exact own
    | directory => exact absurd regular id
    | link target => exact absurd regular id

end FileTree

namespace Discovery

/-- A path that an argument stands for, with the location of the file it leads to. -/
inductive FoundFor (discovery : Discovery) (tree : FileTree) (argument : Path) :
    Path → Location → Prop
  /-- The argument is a file, and its name is that of a shared object or fits. -/
  | itself {location : Location} {name : String} (leads : tree.LeadsToFile argument location)
      (named : argument.fileName? = some name)
      (taken : IsSharedName name ∨ discovery.pattern.fits name) :
      FoundFor discovery tree argument argument location
  /-- The argument is a directory, and below it there is a file with a name that fits. -/
  | below {directory : Location} {entry : Entry} {front : List String} {last : String}
      (leads : tree.resolve argument = .ok (directory, .directory))
      (found : tree.entry? (directory ++ (front ++ [last])) = some entry)
      (regular : entry.IsRegular) (near : discovery.recursive = true ∨ front = [])
      (taken : discovery.pattern.fits last) :
      FoundFor discovery tree argument (argument.under (front ++ [last]))
        (directory ++ (front ++ [last]))

/-- Some of the arguments stands for the path. -/
def Finds (discovery : Discovery) (tree : FileTree) (arguments : List Path) (path : Path) : Prop :=
  ∃ argument ∈ arguments, ∃ location, discovery.FoundFor tree argument path location

theorem fitsName_iff {discovery : Discovery} {path : Path} :
    discovery.fitsName path = true ↔
      ∃ name, path.fileName? = some name ∧ discovery.pattern.fits name = true := by
  rw [fitsName, Option.any_eq_true]

theorem accepts_iff {discovery : Discovery} {path : Path} :
    discovery.accepts path = true ↔
      ∃ name, path.fileName? = some name ∧
        (IsSharedName name ∨ discovery.pattern.fits name = true) := by
  have shared : path.extension? = some sharedExtension ↔
      ∃ name, path.fileName? = some name ∧ IsSharedName name := by
    rw [Path.extension?_eq_some_iff]
    constructor
    · rintro ⟨_, stem, nonempty, named⟩
      exact ⟨_, named, stem, nonempty, String.append_assoc⟩
    · rintro ⟨_, named, stem, nonempty, rfl⟩
      refine ⟨by decide, stem, nonempty, ?_⟩
      rw [named, String.append_assoc]
      rfl
  rw [accepts, Bool.or_eq_true, decide_eq_true_eq, shared, fitsName_iff, ← exists_or]
  simp only [and_or_left]

theorem mem_searched_iff {discovery : Discovery} {tree : FileTree} (isTree : tree.IsTree)
    {directory names : Location} :
    names ∈ discovery.searched tree directory ↔
      ∃ front last, names = front ++ [last] ∧ (discovery.recursive = true ∨ front = []) ∧
        ∃ entry : Entry, entry.IsRegular ∧ tree.entry? (directory ++ names) = some entry := by
  rw [searched, List.mem_filter, FileTree.mem_filesBelow_iff isTree]
  constructor
  · rintro ⟨⟨below, found⟩, near⟩
    obtain ⟨front, last, rfl⟩ := (List.eq_nil_or_concat' names).resolve_left below
    exact ⟨front, last, rfl, by simpa using near, found⟩
  · rintro ⟨front, last, rfl, near, found⟩
    exact ⟨⟨by simp, found⟩, by simpa using near⟩

section Argument

variable {discovery : Discovery} {tree : FileTree} {argument path : Path}

theorem filesFor_of_regular {location : Location} {entry : Entry} (regular : entry.IsRegular)
    (leads : tree.resolve argument = .ok (location, entry)) :
    discovery.filesFor tree argument =
      if discovery.accepts argument then [argument] else [] := by
  rw [filesFor, leads]
  cases entry with
  | file content => rfl
  | locked fault => rfl
  | program tool => rfl
  | directory => exact absurd regular id
  | link target => exact absurd regular id

theorem mem_filesFor_of_directory (isTree : tree.IsTree) {directory : Location}
    (leads : tree.resolve argument = .ok (directory, .directory)) :
    path ∈ discovery.filesFor tree argument ↔
      ∃ names ∈ discovery.searched tree directory,
        path = argument.under names ∧ names.getLast?.any discovery.pattern.fits := by
  have nonempty := (FileTree.resolve_eq_ok_iff.mp leads).1
  have spelled : ∀ names ∈ discovery.searched tree directory,
      descend argument names = argument.under names ∧
        (argument.under names).fileName? = names.getLast? := by
    intro names isSearched
    obtain ⟨front, last, rfl, _, _, _, found⟩ := (mem_searched_iff isTree).mp isSearched
    have areNames := FileTree.isEntryName_of_found_below isTree found
    rw [Path.fileName?_under nonempty areNames, List.getLast?_concat]
    exact ⟨descend_eq_under nonempty (by simp) areNames, rfl⟩
  rw [filesFor, leads]
  change path ∈ ((discovery.searched tree directory).map (descend argument)).filter
    discovery.fitsName ↔ _
  rw [List.mem_filter, List.mem_map]
  constructor
  · rintro ⟨⟨names, isSearched, rfl⟩, fits⟩
    obtain ⟨own, named⟩ := spelled names isSearched
    rw [own, fitsName, named] at fits
    exact ⟨names, isSearched, own, fits⟩
  · rintro ⟨names, isSearched, rfl, fits⟩
    obtain ⟨own, named⟩ := spelled names isSearched
    rw [fitsName, named]
    exact ⟨⟨names, isSearched, own⟩, fits⟩

theorem mem_filesFor_iff (isTree : tree.IsTree) :
    path ∈ discovery.filesFor tree argument ↔
      ∃ location, discovery.FoundFor tree argument path location := by
  constructor
  · intro listed
    have ofRegular {location : Location} {entry : Entry} (regular : entry.IsRegular)
        (leads : tree.resolve argument = .ok (location, entry)) :
        ∃ location, discovery.FoundFor tree argument path location := by
      rw [filesFor_of_regular regular leads] at listed
      split at listed
      · next accepted =>
        obtain ⟨name, named, taken⟩ := accepts_iff.mp accepted
        rw [List.mem_singleton.mp listed]
        exact ⟨location, .itself ⟨entry, regular, leads⟩ named taken⟩
      · cases listed
    cases arrived : tree.resolve argument with
    | error fault =>
      rw [filesFor, arrived] at listed
      cases listed
    | ok result =>
      obtain ⟨location, entry⟩ := result
      cases entry with
      | file content => exact ofRegular (show (Entry.file content).IsRegular from trivial) arrived
      | locked fault => exact ofRegular (show (Entry.locked fault).IsRegular from trivial) arrived
      | program tool => exact ofRegular (show (Entry.program tool).IsRegular from trivial) arrived
      | directory =>
        obtain ⟨names, isSearched, rfl, fits⟩ :=
          (mem_filesFor_of_directory isTree arrived).mp listed
        obtain ⟨front, last, rfl, near, entry, regular, found⟩ :=
          (mem_searched_iff isTree).mp isSearched
        exact ⟨_, .below arrived found regular near (by simpa using fits)⟩
      | link target =>
        rw [filesFor, arrived] at listed
        cases listed
  · rintro ⟨location, foundFor⟩
    cases foundFor with
    | itself leads named taken =>
      obtain ⟨entry, regular, arrived⟩ := leads
      rw [filesFor_of_regular regular arrived, if_pos (accepts_iff.mpr ⟨_, named, taken⟩)]
      exact List.mem_singleton_self argument
    | below leads found regular near taken =>
      apply (mem_filesFor_of_directory isTree leads).mpr
      refine ⟨_, (mem_searched_iff isTree).mpr ⟨_, _, rfl, near, _, regular, found⟩, rfl, ?_⟩
      simpa using taken

end Argument

section Repetitions

theorem key_mem_withoutRepetitions {paths : List Path} {key : List (ℕ ×ₗ String)} :
    key ∈ (withoutRepetitions paths).map Path.key ↔ key ∈ paths.map Path.key := by
  induction paths with
  | nil => rfl
  | cons path rest inductionHypothesis =>
    rw [List.map_cons, List.mem_cons, ← inductionHypothesis, withoutRepetitions]
    cases withoutRepetitions rest with
    | nil => simp
    | cons kept others =>
      dsimp only
      split
      · next same =>
        rw [← Path.key_inj] at same
        simp [same]
      · simp

theorem withoutRepetitions_sublist (paths : List Path) :
    (withoutRepetitions paths).Sublist paths := by
  induction paths with
  | nil => exact List.Sublist.slnil
  | cons path rest inductionHypothesis =>
    rw [withoutRepetitions]
    split
    · next nothing => exact (List.nil_sublist rest).cons_cons path
    · next kept others whole =>
      rw [whole] at inductionHypothesis
      split
      · exact ((List.sublist_cons_self kept others).trans inductionHypothesis).cons_cons path
      · exact inductionHypothesis.cons_cons path

theorem pairwise_withoutRepetitions {paths : List Path}
    (sorted : paths.Pairwise fun a b => a.key ≤ b.key) :
    (withoutRepetitions paths).Pairwise fun a b => a.key < b.key := by
  induction paths with
  | nil => exact List.Pairwise.nil
  | cons path rest inductionHypothesis =>
    rw [List.pairwise_cons] at sorted
    have increasing := inductionHypothesis sorted.2
    have sublist := withoutRepetitions_sublist rest
    rw [withoutRepetitions]
    split
    · exact List.pairwise_singleton _ path
    · next kept others whole =>
      rw [whole] at increasing sublist
      have first : path.key ≤ kept.key := sorted.1 kept (sublist.subset (List.mem_cons_self ..))
      rw [List.pairwise_cons] at increasing
      split
      · next same =>
        rw [← Path.key_inj] at same
        rw [List.pairwise_cons, same]
        exact increasing
      · next differs =>
        rw [← Path.key_inj] at differs
        have before : path.key < kept.key := lt_of_le_of_ne first differs
        refine List.pairwise_cons.mpr ⟨?_, List.pairwise_cons.mpr increasing⟩
        intro other inside
        rcases List.mem_cons.mp inside with rfl | later
        · exact before
        · exact before.trans (increasing.1 other later)

end Repetitions

section Files

variable (discovery : Discovery) {tree : FileTree} (isTree : tree.IsTree)

theorem pairwise_files (tree : FileTree) (arguments : List Path) :
    (discovery.files tree arguments).Pairwise fun a b => a.key < b.key := by
  have keyed (a b : Path) : a.le b = true ↔ a.key ≤ b.key := Path.le_iff
  exact pairwise_withoutRepetitions (pairwise_mergeSort_of_keyed keyed _)

include isTree

theorem mem_flatMap_filesFor_iff {arguments : List Path} {path : Path} :
    path ∈ arguments.flatMap (discovery.filesFor tree) ↔ discovery.Finds tree arguments path := by
  rw [List.mem_flatMap, Finds]
  simp only [mem_filesFor_iff isTree]

theorem finds_of_mem_files {arguments : List Path} {path : Path}
    (listed : path ∈ discovery.files tree arguments) : discovery.Finds tree arguments path := by
  rw [← mem_flatMap_filesFor_iff discovery isTree]
  exact List.mem_mergeSort.mp ((withoutRepetitions_sublist _).subset listed)

theorem key_mem_files_iff {arguments : List Path} {key : List (ℕ ×ₗ String)} :
    key ∈ (discovery.files tree arguments).map Path.key ↔
      ∃ path, discovery.Finds tree arguments path ∧ path.key = key := by
  rw [files, key_mem_withoutRepetitions, List.mem_map]
  simp only [List.mem_mergeSort, mem_flatMap_filesFor_iff discovery isTree]

theorem exists_mem_files {arguments : List Path} {path : Path}
    (found : discovery.Finds tree arguments path) :
    ∃ kept ∈ discovery.files tree arguments, kept.same path := by
  have listed := (key_mem_files_iff discovery isTree).mpr ⟨path, found, rfl⟩
  obtain ⟨kept, inside, keys⟩ := List.mem_map.mp listed
  exact ⟨kept, inside, Path.key_inj.mp keys⟩

/-- What is listed depends on the arguments as a set only. -/
theorem parts_files_congr {arguments others : List Path}
    (same : ∀ argument, argument ∈ others ↔ argument ∈ arguments) :
    (discovery.files tree others).map Path.parts =
      (discovery.files tree arguments).map Path.parts := by
  have found (path : Path) :
      discovery.Finds tree others path ↔ discovery.Finds tree arguments path := by
    simp only [Finds, same]
  have keys : (discovery.files tree others).map Path.key =
      (discovery.files tree arguments).map Path.key := by
    have increasing (arguments : List Path) :
        ((discovery.files tree arguments).map Path.key).Pairwise (· < ·) :=
      List.pairwise_map.mpr (pairwise_files discovery tree arguments)
    apply (increasing others).eq_of_mem_iff (increasing arguments)
    intro key
    simp only [key_mem_files_iff discovery isTree, found]
  apply (List.map_injective_iff.mpr PathPart.key_injective.list_map)
  rw [List.map_map, List.map_map]
  exact keys

/-- The list strictly increases, and up to the spelling of a path it lists just what is found. So
neither the order nor a repetition of the arguments matters, and more arguments take away no file.
-/
theorem files_exact (arguments : List Path) :
    (discovery.files tree arguments).Pairwise (fun a b => a.key < b.key) ∧
      (∀ path ∈ discovery.files tree arguments, discovery.Finds tree arguments path) ∧
      (∀ path, discovery.Finds tree arguments path →
        ∃ kept ∈ discovery.files tree arguments, kept.same path) ∧
      (∀ others, (∀ argument, argument ∈ others ↔ argument ∈ arguments) →
        (discovery.files tree others).map Path.parts =
          (discovery.files tree arguments).map Path.parts) ∧
      ∀ more, arguments ⊆ more → ∀ path ∈ discovery.files tree arguments,
        ∃ kept ∈ discovery.files tree more, kept.same path := by
  refine ⟨pairwise_files discovery tree arguments, ?_, ?_, ?_, ?_⟩
  · exact fun path => finds_of_mem_files discovery isTree
  · exact fun path => exists_mem_files discovery isTree
  · exact fun others => parts_files_congr discovery isTree
  · intro more within path listed
    obtain ⟨argument, given, location, found⟩ := finds_of_mem_files discovery isTree listed
    exact exists_mem_files discovery isTree ⟨argument, within given, location, found⟩

end Files

/-- Every name fits the empty pattern. -/
def everyName : Discovery :=
  ⟨⟨"", .empty⟩, true⟩

def twoLibraries : FileTree :=
  ⟨[(["lib"], .directory), (["lib", "a.so"], .file .empty), (["lib", "x"], .directory),
    (["lib", "x", "b.so"], .file .empty)], []⟩

theorem twoLibraries_isTree : twoLibraries.IsTree where
  distinct := by decide
  named := by decide
  placed := by
    intro entry inside
    simp only [twoLibraries, List.mem_cons, List.not_mem_nil, or_false] at inside
    rcases inside with rfl | rfl | rfl | rfl <;> rfl

/-- The arguments overlap; the second one is spelled in another way than the walk does. -/
theorem files_exact_overlapping :
    twoLibraries.IsTree ∧
      (∃ kept ∈ everyName.files twoLibraries [⟨"lib"⟩, ⟨"lib//x"⟩], kept.same ⟨"lib/x/b.so"⟩) ∧
      (everyName.files twoLibraries [⟨"lib//x"⟩, ⟨"lib"⟩, ⟨"lib//x"⟩]).map Path.parts =
        (everyName.files twoLibraries [⟨"lib"⟩, ⟨"lib//x"⟩]).map Path.parts := by
  obtain ⟨_, _, complete, asSet, _⟩ :=
    files_exact everyName twoLibraries_isTree [⟨"lib"⟩, ⟨"lib//x"⟩]
  refine ⟨twoLibraries_isTree, ?_, ?_⟩
  · have found : everyName.FoundFor twoLibraries ⟨"lib"⟩
        ((⟨"lib"⟩ : Path).under (["x"] ++ ["b.so"])) (["lib"] ++ (["x"] ++ ["b.so"])) :=
      .below rfl rfl trivial (.inl rfl) rfl
    have spelled : (⟨"lib"⟩ : Path).under (["x"] ++ ["b.so"]) = ⟨"lib/x/b.so"⟩ := by decide
    rw [spelled] at found
    exact complete _ ⟨⟨"lib"⟩, List.mem_cons_self .., _, found⟩
  · apply asSet
    simp [or_comm]

end Discovery

end SymbolFootprint
