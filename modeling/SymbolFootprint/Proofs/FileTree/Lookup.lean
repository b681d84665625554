import SymbolFootprint.Proofs.Path.Below

/-!
What paths lead to in a tree.

In a tree without links, a path without `..` leads to the place that its names spell
(`location_of_resolve`). Behind a path that leads to a directory, through links or not, the names of
a regular file below lead on to it (`resolve_under`).
-/

namespace SymbolFootprint

namespace Path

def names (path : Path) : List String :=
  (FileTree.pieces path.text).filter fun piece => piece ≠ "" ∧ piece ≠ "."

theorem pieces_text (path : Path) : FileTree.pieces path.text = path.pieces.map String.ofList :=
  rfl

theorem up_not_mem_pieces (path : Path) (noUp : .up ∉ path.parts) :
    ".." ∉ FileTree.pieces path.text := by
  intro up
  obtain ⟨piece, inside, same⟩ := List.mem_map.mp up
  have isUp : piece = ['.', '.'] := by
    rw [← String.toList_ofList (l := piece), same]
    rfl
  apply noUp
  rw [parts_eq]
  exact List.mem_append_right _ (List.mem_filterMap.mpr ⟨piece, inside, by rw [isUp]; rfl⟩)

theorem part?_cases (piece : List Char) :
    (String.ofList piece = "" ∨ String.ofList piece = ".") ∧ part? piece = none ∨
    part? piece = some .up ∨
    (String.ofList piece ≠ "" ∧ String.ofList piece ≠ ".") ∧
      part? piece = some (.name (String.ofList piece)) := by
  unfold part?
  split
  · exact .inl ⟨.inl rfl, rfl⟩
  · exact .inl ⟨.inr rfl, rfl⟩
  · exact .inr (.inl rfl)
  · next empty here _ =>
    refine .inr (.inr ⟨⟨fun same => empty ?_, fun same => here ?_⟩, rfl⟩)
    · rw [← String.toList_ofList (l := piece), same]
      rfl
    · rw [← String.toList_ofList (l := piece), same]
      rfl

theorem filterMap_part?_eq {pieces : List (List Char)} (noUp : .up ∉ pieces.filterMap part?) :
    pieces.filterMap part? =
      ((pieces.map String.ofList).filter fun piece => piece ≠ "" ∧ piece ≠ ".").map .name := by
  induction pieces with
  | nil => rfl
  | cons piece pieces inductionHypothesis =>
    rw [List.filterMap_cons] at noUp ⊢
    rw [List.map_cons]
    rcases part?_cases piece with ⟨nothing, part⟩ | up | ⟨isName, part⟩
    · rw [part] at noUp ⊢
      rw [List.filter_cons_of_neg (by simpa [or_iff_not_imp_left] using nothing)]
      exact inductionHypothesis noUp
    · rw [up] at noUp
      exact absurd (List.mem_cons_self ..) noUp
    · rw [part] at noUp ⊢
      rw [List.filter_cons_of_pos (by simpa using isName), List.map_cons,
        inductionHypothesis fun up => noUp (List.mem_cons_of_mem _ up)]

theorem parts_eq_names (path : Path) (noUp : .up ∉ path.parts) :
    path.parts = path.start?.toList ++ path.names.map .name := by
  rw [parts_eq] at noUp ⊢
  rw [filterMap_part?_eq fun up => noUp (List.mem_append_right _ up)]
  rfl

theorem start_pieces (path : Path) (nonempty : path.text ≠ "") (current : Location) :
    FileTree.start current (FileTree.pieces path.text) =
      if path.start? = some .root then [] else current := by
  have notSingle : path.pieces ≠ [[]] := by
    intro single
    have text := Text.join_split '/' path.text.toList
    rw [show Text.split '/' path.text.toList = [[]] from single] at text
    exact nonempty (String.toList_eq_nil_iff.mp text.symm)
  change FileTree.start current (path.pieces.map String.ofList) = _
  rw [start?]
  generalize path.pieces = pieces at notSingle ⊢
  cases pieces with
  | nil => rfl
  | cons piece rest =>
    cases piece with
    | nil =>
      cases rest with
      | nil => exact absurd rfl notSingle
      | cons next rest => rfl
    | cons c piece =>
      have notRoot : startPart? ((c :: piece) :: rest) ≠ some .root := by
        rw [startPart?_cons (List.cons_ne_nil c piece)]
        split <;> intro root <;> cases root
      rw [if_neg notRoot, List.map_cons, FileTree.start]
      intro others same
      have empty := congrArg String.toList (List.cons.inj same).1
      rw [String.toList_ofList] at empty
      cases empty

end Path

/-- A file or a program, that is, what has contents of its own. -/
def Entry.IsRegular : Entry → Prop
  | .file _ => True
  | .locked _ => True
  | .program _ => True
  | _ => False

namespace FileTree

/-- The entries make up a tree: each stands once, in a directory, and under a name. -/
structure IsTree (tree : FileTree) : Prop where
  distinct : (tree.entries.map Prod.fst).Nodup
  named : ∀ entry ∈ tree.entries, entry.1 ≠ [] ∧ ∀ name ∈ entry.1, IsEntryName name
  placed : ∀ entry ∈ tree.entries, tree.entry? entry.1.dropLast = some .directory

def LinkFree (tree : FileTree) : Prop :=
  ∀ entry ∈ tree.entries, ∀ target, entry.2 ≠ .link target

/-- The path leads to a regular file, which stands at the location. -/
def LeadsToFile (tree : FileTree) (path : Path) (location : Location) : Prop :=
  ∃ entry : Entry, entry.IsRegular ∧ tree.resolve path = .ok (location, entry)

section Entries

variable {tree : FileTree} {location : Location} {entry : Entry}

theorem mem_of_found (below : location ≠ []) (found : tree.entry? location = some entry) :
    (location, entry) ∈ tree.entries := by
  rw [ entry?, if_neg (by simpa using below), List.lookup_eq_some_iff] at found
  obtain ⟨front, back, whole, _⟩ := found
  simp [whole]

theorem entry?_eq_some_iff (isTree : tree.IsTree) (below : location ≠ []) :
    tree.entry? location = some entry ↔ (location, entry) ∈ tree.entries := by
  refine ⟨mem_of_found below, ?_⟩
  intro membership
  obtain ⟨front, back, whole⟩ := List.append_of_mem membership
  rw [ entry?, if_neg (by simpa using below), List.lookup_eq_some_iff]
  refine ⟨front, back, whole, ?_⟩
  intro other inside
  have distinct := isTree.distinct
  rw [whole, List.map_append, List.map_cons, List.nodup_append] at distinct
  have differs : other.1 ≠ location :=
    distinct.2.2 other.1 (List.mem_map_of_mem inside) location (List.mem_cons_self ..)
  exact bne_iff_ne.mpr differs.symm

theorem entry?_ne_link (linkFree : tree.LinkFree) (location : Location) (target : String) :
    tree.entry? location ≠ some (.link target) := by
  intro found
  by_cases below : location = []
  · subst below
    cases found
  · exact linkFree _ (mem_of_found below found) target rfl

theorem isEntryName_of_found (isTree : tree.IsTree) (found : tree.entry? location = some entry) :
    ∀ name ∈ location, IsEntryName name := by
  intro name inside
  have below : location ≠ [] := List.ne_nil_of_mem inside
  exact (isTree.named _ (mem_of_found below found)).2 name inside

theorem isEntryName_of_found_below (isTree : tree.IsTree) {names : List String}
    (found : tree.entry? (location ++ names) = some entry) : ∀ name ∈ names, IsEntryName name :=
  fun name inside => isEntryName_of_found isTree found name (List.mem_append_right _ inside)

theorem entry?_eq_directory (isTree : tree.IsTree) {names : List String} (below : names ≠ [])
    (found : tree.entry? (location ++ names) = some entry) :
    tree.entry? location = some .directory := by
  induction names using List.reverseRecOn generalizing entry with
  | nil => exact absurd rfl below
  | append_singleton names last inductionHypothesis =>
    rw [← List.append_assoc] at found
    have above := isTree.placed _ (mem_of_found (by simp) found)
    rw [List.dropLast_concat] at above
    cases names with
    | nil => rwa [List.append_nil] at above
    | cons name names => exact inductionHypothesis (List.cons_ne_nil _ _) above

end Entries

theorem resolve_eq_ok_iff {tree : FileTree} {path : Path} {location : Location} {entry : Entry} :
    tree.resolve path = .ok (location, entry) ↔
      path.text ≠ "" ∧ '\x00' ∉ path.text.toList ∧
        tree.walk (tree.walkLinks (linkLimit - 1)) (start tree.current (pieces path.text))
          (pieces path.text) = .ok ⟨location, some entry⟩ := by
  unfold resolve arrive
  by_cases empty : path.text = ""
  · simp [empty]
  · by_cases zero : '\x00' ∈ path.text.toList
    · simp [empty, zero]
    · rw [if_neg empty, if_neg (by simpa using zero)]
      simp only [ne_eq, empty, not_false_eq_true, zero, true_and]
      change _ ↔ walkLinks tree linkLimit _ _ = _
      split
      · next fault failed => simp [failed]
      · next nothing arrived => simp [arrived]
      · next place found arrived => simp [arrived]

/-- Without links and `..`, a walk goes down by the names alone. -/
theorem location_of_walk {tree : FileTree} (linkFree : tree.LinkFree)
    {follow : Location → List String → Except OsFault Arrival} {place : Location}
    {pieces : List String} {arrival : Arrival} (noUp : ".." ∉ pieces)
    (walked : tree.walk follow place pieces = .ok arrival) :
    arrival.location = place ++ pieces.filter (fun piece => piece ≠ "" ∧ piece ≠ ".") := by
  induction pieces generalizing place with
  | nil =>
    cases walked
    exact (List.append_nil place).symm
  | cons piece rest inductionHypothesis =>
    simp only [List.mem_cons, not_or] at noUp
    rw [walk] at walked
    split at walked
    · next nothing =>
      rw [inductionHypothesis noUp.2 walked, List.filter_cons_of_neg]
      simpa [or_iff_not_imp_left] using nothing
    · next isName =>
      rw [not_or] at isName
      rw [if_neg (Ne.symm noUp.1)] at walked
      rw [List.filter_cons_of_pos (by simpa using isName)]
      split at walked
      · split at walked
        · next last =>
          cases walked
          simp [List.isEmpty_iff.mp last]
        · cases walked
      · next target found => exact absurd found (entry?_ne_link linkFree _ target)
      · rw [inductionHypothesis noUp.2 walked, List.append_assoc, List.singleton_append]
      · split at walked
        · next last =>
          cases walked
          simp [List.isEmpty_iff.mp last]
        · cases walked

section GoingOn

variable {tree : FileTree} {follow : Location → List String → Except OsFault Arrival}
  {place location : Location} {front rest : List String}

/-- A walk that comes to a directory can be gone on with, if the walks behind links can. -/
theorem walk_append {result : Except OsFault Arrival}
    (goesOn : tree.walk follow location rest = result)
    (follows : ∀ base pieces, follow base pieces = .ok ⟨location, some .directory⟩ →
      follow base (pieces ++ rest) = result)
    (walked : tree.walk follow place front = .ok ⟨location, some .directory⟩) :
    tree.walk follow place (front ++ rest) = result := by
  induction front generalizing place with
  | nil =>
    cases walked
    exact goesOn
  | cons piece front inductionHypothesis =>
    rw [walk] at walked
    rw [List.cons_append, walk]
    split at walked
    · next nothing => rw [if_pos nothing, inductionHypothesis walked]
    · next isName =>
      rw [if_neg isName]
      split at walked
      · next up => rw [if_pos up, inductionHypothesis walked]
      · next noUp =>
        rw [if_neg noUp]
        split at walked
        · split at walked <;> cases walked
        · rw [← List.append_assoc]
          exact follows _ _ walked
        · exact inductionHypothesis walked
        · next file noDirectory found =>
          split at walked
          · cases walked
            exact absurd rfl noDirectory
          · cases walked

theorem walkLinks_append {links : ℕ} {result : Except OsFault Arrival}
    (goesOn : ∀ follow, tree.walk follow location rest = result)
    (walked : tree.walkLinks links place front = .ok ⟨location, some .directory⟩) :
    tree.walkLinks links place (front ++ rest) = result := by
  induction links generalizing place front with
  | zero => exact walk_append (goesOn _) (fun _ _ failed => nomatch failed) walked
  | succ links inductionHypothesis =>
    exact walk_append (goesOn _) (fun _ _ => inductionHypothesis) walked

theorem walk_skip (nonempty : rest ≠ [])
    (follows : ∀ base pieces, follow base (pieces ++ "" :: rest) = follow base (pieces ++ rest)) :
    tree.walk follow place (front ++ "" :: rest) = tree.walk follow place (front ++ rest) := by
  induction front generalizing place with
  | nil => rw [List.nil_append, List.nil_append, walk, if_pos (.inl rfl)]
  | cons piece front inductionHypothesis =>
    have more : (front ++ rest).isEmpty = false := by simp [nonempty]
    have otherMore : (front ++ "" :: rest).isEmpty = false := by simp
    rw [List.cons_append, List.cons_append, walk, walk]
    simp only [inductionHypothesis, more, otherMore, ← List.append_assoc, follows]

theorem walkLinks_skip {links : ℕ} (nonempty : rest ≠ []) :
    tree.walkLinks links place (front ++ "" :: rest) =
      tree.walkLinks links place (front ++ rest) := by
  induction links generalizing place front with
  | zero => exact walk_skip nonempty fun _ _ => rfl
  | succ links inductionHypothesis => exact walk_skip nonempty fun _ _ => inductionHypothesis

theorem walk_names (isTree : tree.IsTree) {name : String} {names : List String} {entry : Entry}
    (regular : entry.IsRegular) (found : tree.entry? (location ++ name :: names) = some entry) :
    tree.walk follow location (name :: names) =
      .ok ⟨location ++ name :: names, some entry⟩ := by
  induction names generalizing location name with
  | nil =>
    have isName : IsEntryName name := isEntryName_of_found isTree found name (by simp)
    rw [walk, if_neg (not_or.mpr ⟨isName.nonempty, isName.notHere⟩), if_neg isName.notUp, found]
    cases entry with
    | file content => rfl
    | locked fault => rfl
    | program tool => rfl
    | directory => exact absurd regular id
    | link target => exact absurd regular id
  | cons next names inductionHypothesis =>
    have isName : IsEntryName name := isEntryName_of_found isTree found name (by simp)
    rw [List.append_cons] at found
    have onTheWay := entry?_eq_directory isTree (List.cons_ne_nil next names) found
    rw [walk, if_neg (not_or.mpr ⟨isName.nonempty, isName.notHere⟩), if_neg isName.notUp, onTheWay]
    change tree.walk follow (location ++ [name]) (next :: names) = _
    rw [inductionHypothesis found, List.append_assoc]
    rfl

end GoingOn

/-- Where a path without `..` leads to in a tree without links. -/
def placeOf (tree : FileTree) (path : Path) : Location :=
  (if path.start? = some .root then [] else tree.current) ++ path.names

theorem location_of_resolve {tree : FileTree} (linkFree : tree.LinkFree) {path : Path}
    {location : Location} {entry : Entry} (noUp : .up ∉ path.parts)
    (resolved : tree.resolve path = .ok (location, entry)) : location = tree.placeOf path := by
  obtain ⟨nonempty, _, walked⟩ := resolve_eq_ok_iff.mp resolved
  have arrived := location_of_walk linkFree (path.up_not_mem_pieces noUp) walked
  rw [placeOf, ← path.start_pieces nonempty]
  exact arrived

/-- Behind a directory, the names of a regular file below lead on to it. -/
theorem resolve_under {tree : FileTree} {path : Path} {location : Location}
    (isTree : tree.IsTree) {names : List String} {entry : Entry} (regular : entry.IsRegular)
    (resolved : tree.resolve path = .ok (location, .directory)) (below : names ≠ [])
    (found : tree.entry? (location ++ names) = some entry) :
    tree.resolve (path.under names) = .ok (location ++ names, entry) := by
  obtain ⟨nonempty, noZero, walked⟩ := resolve_eq_ok_iff.mp resolved
  have areNames := isEntryName_of_found_below isTree found
  have underNonempty := path.under_ne_empty below areNames
  apply resolve_eq_ok_iff.mpr
  refine ⟨underNonempty, Path.zero_not_mem_under noZero areNames, ?_⟩
  obtain ⟨front, back, _, tail, own, whole⟩ := Path.pieces_under nonempty below areNames
  have starts : start tree.current (pieces (path.under names).text) =
      start tree.current (pieces path.text) := by
    rw [Path.start_pieces _ underNonempty, Path.start_pieces _ nonempty,
      Path.start?_under nonempty below areNames]
  rw [starts, (path.under names).pieces_text, whole, List.map_append, Text.map_ofList_map_toList]
  generalize start tree.current (pieces path.text) = place at walked ⊢
  rw [path.pieces_text, own, List.map_append] at walked
  obtain ⟨name, names, rfl⟩ := List.exists_cons_of_ne_nil below
  have goesOn (follow) := @walk_names tree follow location isTree name names entry regular found
  change tree.walkLinks linkLimit _ _ = .ok ⟨location, some .directory⟩ at walked
  change tree.walkLinks linkLimit _ _ = _
  rcases tail with rfl | ⟨rfl, _⟩
  · rw [← walkLinks_skip below, List.append_cons]
    exact walkLinks_append goesOn walked
  · rw [List.map_nil, List.append_nil] at walked
    exact walkLinks_append goesOn walked

end FileTree

end SymbolFootprint
