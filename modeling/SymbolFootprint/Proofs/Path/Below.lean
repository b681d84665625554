import Mathlib.Data.List.Basic
import Mathlib.Data.List.Induction
import SymbolFootprint.Discovery
import SymbolFootprint.Proofs.Text.Split

/-!
Paths of what is below a directory.

Such a path is spelled as the path of the directory with the names that lead on, each behind a slash
(`descend_eq_under`). Its components are those of the directory and the names (`parts_under`), so
the last name is the name of the file (`fileName?_under`).
-/

namespace SymbolFootprint

/-- A name that an entry of a directory can have. -/
structure IsEntryName (name : String) : Prop where
  nonempty : name ≠ ""
  notHere : name ≠ "."
  notUp : name ≠ ".."
  noSlash : '/' ∉ name.toList
  noZero : '\x00' ∉ name.toList

instance (name : String) : Decidable (IsEntryName name) :=
  decidable_of_iff (name ≠ "" ∧ name ≠ "." ∧ name ≠ ".." ∧ '/' ∉ name.toList ∧ '\x00' ∉ name.toList)
    ⟨fun ⟨nonempty, notHere, notUp, noSlash, noZero⟩ => ⟨nonempty, notHere, notUp, noSlash, noZero⟩,
      fun isName => ⟨isName.nonempty, isName.notHere, isName.notUp, isName.noSlash, isName.noZero⟩⟩

namespace Path

def pieces (path : Path) : List (List Char) :=
  Text.split '/' path.text.toList

/-- The component that only the start of a path can have. -/
def start? (path : Path) : Option PathPart :=
  startPart? path.pieces

/-- What stands between the path of a directory and the names below it. -/
def slashBehind (directory : Path) : List Char :=
  if directory.text.toList.getLast? = some '/' then [] else ['/']

/-- The path of what is below a directory, by the names that lead to it. -/
def under (directory : Path) (names : List String) : Path :=
  ⟨String.ofList (directory.text.toList ++ directory.slashBehind ++
    Text.join ['/'] (names.map String.toList))⟩

theorem eq_of_toList {path other : Path} (same : path.text.toList = other.text.toList) :
    path = other :=
  congrArg Path.mk (String.toList_inj.mp same)

theorem parts_eq (path : Path) : path.parts = path.start?.toList ++ path.pieces.filterMap part? :=
  rfl

theorem part?_eq_name {name : String} (nonempty : name ≠ "") (notHere : name ≠ ".")
    (notUp : name ≠ "..") : part? name.toList = some (.name name) := by
  unfold part?
  split
  · next empty => exact absurd (String.toList_eq_nil_iff.mp empty) nonempty
  · next here => exact absurd (String.toList_inj.mp here) notHere
  · next up => exact absurd (String.toList_inj.mp up) notUp
  · rw [String.ofList_toList]

theorem part?_of_isEntryName {name : String} (isName : IsEntryName name) :
    part? name.toList = some (.name name) :=
  part?_eq_name isName.nonempty isName.notHere isName.notUp

theorem filterMap_part?_of_isEntryName {names : List String}
    (areNames : ∀ name ∈ names, IsEntryName name) :
    (names.map String.toList).filterMap part? = names.map .name := by
  rw [List.filterMap_map]
  induction names with
  | nil => rfl
  | cons name names inductionHypothesis =>
    rw [List.filterMap_cons, Function.comp_apply,
      part?_of_isEntryName (areNames name (List.mem_cons_self ..))]
    rw [inductionHypothesis fun name inside => areNames name (List.mem_cons_of_mem _ inside)]
    rfl

theorem startPart?_cons {piece : List Char} (nonempty : piece ≠ []) (rest : List (List Char)) :
    startPart? (piece :: rest) = if piece = ['.'] then some .here else none := by
  unfold startPart?
  split
  · next empty => exact absurd (List.cons.inj empty).1 nonempty
  · next here => rw [if_pos (List.cons.inj here).1]
  · next _ notHere => rw [if_neg fun here => notHere rest (by rw [here])]

/-- What is behind the first pieces tells nothing more about the start, as long as they are not the
empty piece alone. -/
theorem startPart?_append {front back other : List (List Char)} (nonempty : front ≠ [])
    (behind : front = [[]] → back ≠ [] ∧ other ≠ []) :
    startPart? (front ++ back) = startPart? (front ++ other) := by
  match front, behind with
  | [[]], behind =>
    obtain ⟨next, rest, rfl⟩ := List.exists_cons_of_ne_nil (behind rfl).1
    obtain ⟨otherNext, otherRest, rfl⟩ := List.exists_cons_of_ne_nil (behind rfl).2
    rfl
  | [] :: _ :: _, _ => rfl
  | (c :: piece) :: rest, _ =>
    rw [List.cons_append, List.cons_append, startPart?_cons (List.cons_ne_nil c piece),
      startPart?_cons (List.cons_ne_nil c piece)]

section Below

variable {directory : Path} (nonempty : directory.text ≠ "") {names : List String}
  (below : names ≠ []) (areNames : ∀ name ∈ names, IsEntryName name)

include nonempty below areNames

theorem pieces_under :
    ∃ front back, front ≠ [] ∧ (back = [[]] ∨ back = [] ∧ front ≠ [[]]) ∧
      directory.pieces = front ++ back ∧
      (directory.under names).pieces = front ++ names.map String.toList := by
  have namePieces : Text.split '/' (Text.join ['/'] (names.map String.toList)) =
      names.map String.toList := by
    apply Text.split_join
    · exact fun empty => below (List.map_eq_nil_iff.mp empty)
    · exact List.forall_mem_map.mpr fun name inside => (areNames name inside).noSlash
  simp only [pieces, under, String.toList_ofList]
  by_cases ends : directory.text.toList.getLast? = some '/'
  · obtain ⟨text, whole⟩ := List.getLast?_eq_some_iff.mp ends
    refine ⟨Text.split '/' text, [[]], Text.split_ne_nil '/' text, .inl rfl, ?_, ?_⟩
    · rw [whole, Text.split_append_cons]
      rfl
    · rw [slashBehind, if_pos ends, whole, List.append_nil, List.append_assoc,
        List.singleton_append, Text.split_append_cons, namePieces]
  · refine ⟨Text.split '/' directory.text.toList, [], Text.split_ne_nil '/' _,
      .inr ⟨rfl, ?_⟩, (List.append_nil _).symm, ?_⟩
    · intro single
      have text := Text.join_split '/' directory.text.toList
      rw [single] at text
      exact nonempty (String.toList_eq_nil_iff.mp text.symm)
    · rw [slashBehind, if_neg ends, List.append_assoc, List.singleton_append,
        Text.split_append_cons, namePieces]

theorem start?_under : (directory.under names).start? = directory.start? := by
  obtain ⟨front, back, frontNonempty, tail, own, whole⟩ := pieces_under nonempty below areNames
  have mapNonempty : names.map String.toList ≠ [] := fun empty =>
    below (List.map_eq_nil_iff.mp empty)
  rw [start?, start?, own, whole]
  apply startPart?_append frontNonempty
  intro single
  refine ⟨mapNonempty, ?_⟩
  rcases tail with rfl | ⟨_, others⟩
  · exact List.cons_ne_nil _ _
  · exact absurd single others

theorem parts_under : (directory.under names).parts = directory.parts ++ names.map .name := by
  obtain ⟨front, back, _, tail, own, whole⟩ := pieces_under nonempty below areNames
  have noPart : back.filterMap part? = [] := by
    rcases tail with rfl | ⟨rfl, _⟩ <;> rfl
  rw [parts_eq, parts_eq, start?_under nonempty below areNames, own, whole, List.filterMap_append,
    List.filterMap_append, noPart, filterMap_part?_of_isEntryName areNames, List.append_nil,
    List.append_assoc]

end Below

theorem fileName?_under {directory : Path} (nonempty : directory.text ≠ "") {front : List String}
    {last : String} (areNames : ∀ name ∈ front ++ [last], IsEntryName name) :
    (directory.under (front ++ [last])).fileName? = some last := by
  have below : front ++ [last] ≠ [] := List.append_ne_nil_of_right_ne_nil _ (List.cons_ne_nil _ _)
  rw [fileName?, parts_under nonempty below areNames, List.map_append, ← List.append_assoc]
  simp

end Path

namespace Path

theorem toList_child {directory : Path} (nonempty : directory.text ≠ "") (name : String) :
    (directory.child name).text.toList =
      directory.text.toList ++ directory.slashBehind ++ name.toList := by
  unfold child slashBehind
  split
  · next empty =>
    exact absurd (String.toList_eq_nil_iff.mp (List.getLast?_eq_none_iff.mp empty)) nonempty
  · next slash => rw [if_pos slash, String.toList_append, List.append_nil]
  · next c noSlash last =>
    have differs : directory.text.toList.getLast? ≠ some '/' := fun slash =>
      noSlash (Option.some.inj (last.symm.trans slash))
    rw [if_neg differs]
    simp only [String.toList_append]
    rfl

theorem exists_toList_under (directory : Path) (front : List String) (last : String) :
    ∃ before, (directory.under (front ++ [last])).text.toList = before ++ last.toList := by
  cases front with
  | nil => exact ⟨_, String.toList_ofList⟩
  | cons name front =>
    refine ⟨directory.text.toList ++ directory.slashBehind ++
      (Text.join ['/'] ((name :: front).map String.toList) ++ ['/']), ?_⟩
    have joined : Text.join ['/'] ((name :: front).map String.toList ++ [last.toList]) = _ :=
      Text.join_append ['/'] (List.cons_ne_nil _ _) (List.cons_ne_nil _ _)
    rw [under, String.toList_ofList, List.map_append, List.map_singleton, joined]
    simp only [List.append_assoc]
    rfl

theorem under_ne_empty (directory : Path) {names : List String} (below : names ≠ [])
    (areNames : ∀ name ∈ names, IsEntryName name) : (directory.under names).text ≠ "" := by
  obtain ⟨front, last, rfl⟩ := (List.eq_nil_or_concat' names).resolve_left below
  obtain ⟨before, whole⟩ := exists_toList_under directory front last
  intro empty
  rw [empty, String.toList_empty, eq_comm, List.append_eq_nil_iff] at whole
  exact (areNames last (by simp)).nonempty (String.toList_eq_nil_iff.mp whole.2)

theorem zero_not_mem_under {directory : Path} (noZero : '\x00' ∉ directory.text.toList)
    {names : List String} (areNames : ∀ name ∈ names, IsEntryName name) :
    '\x00' ∉ (directory.under names).text.toList := by
  rw [under, String.toList_ofList, List.append_assoc, List.mem_append, not_or]
  refine ⟨noZero, fun zero => ?_⟩
  rcases List.mem_append.mp zero with slash | inside
  · rw [slashBehind] at slash
    split at slash <;> simp at slash
  · rcases Text.mem_of_mem_join inside with slash | ⟨piece, isPiece, own⟩
    · simp at slash
    · obtain ⟨name, isName, rfl⟩ := List.mem_map.mp isPiece
      exact (areNames name isName).noZero own

theorem slashBehind_under (directory : Path) (front : List String) {last : String}
    (isName : IsEntryName last) : (directory.under (front ++ [last])).slashBehind = ['/'] := by
  obtain ⟨before, whole⟩ := exists_toList_under directory front last
  have nonempty : last.toList ≠ [] := fun empty =>
    isName.nonempty (String.toList_eq_nil_iff.mp empty)
  apply if_neg
  rw [whole, List.getLast?_append_of_ne_nil _ nonempty]
  exact fun slash => isName.noSlash (List.mem_of_getLast? slash)

theorem under_concat (directory : Path) {front : List String} {previous last : String}
    (isName : IsEntryName previous) :
    (directory.under (front ++ [previous])).text.toList ++
        (directory.under (front ++ [previous])).slashBehind ++ last.toList =
      (directory.under (front ++ [previous] ++ [last])).text.toList := by
  have joined : Text.join ['/'] ((front ++ [previous]).map String.toList ++ [last.toList]) = _ :=
    Text.join_append ['/'] (by simp) (List.cons_ne_nil _ _)
  rw [slashBehind_under directory front isName]
  have whole : (front ++ [previous] ++ [last]).map String.toList =
      (front ++ [previous]).map String.toList ++ [last.toList] := List.map_append
  simp only [under, String.toList_ofList]
  rw [whole, joined]
  simp only [List.append_assoc]
  rfl

end Path

namespace Discovery

/-- The names below a directory are spelled behind its path. -/
theorem descend_eq_under {directory : Path} (nonempty : directory.text ≠ "") {names : List String}
    (below : names ≠ []) (areNames : ∀ name ∈ names, IsEntryName name) :
    descend directory names = directory.under names := by
  induction names using List.reverseRecOn with
  | nil => exact absurd rfl below
  | append_singleton names last inductionHypothesis =>
    rw [descend, List.foldl_concat]
    change (descend directory names).child last = _
    rcases List.eq_nil_or_concat' names with rfl | ⟨front, previous, rfl⟩
    · apply Path.eq_of_toList
      rw [List.nil_append, descend, List.foldl_nil, Path.toList_child nonempty, Path.under,
        String.toList_ofList]
      rfl
    · have isName : IsEntryName previous := areNames previous (by simp)
      have frontNames : ∀ name ∈ front ++ [previous], IsEntryName name := fun name inside =>
        areNames name (List.mem_append_left _ inside)
      have here : descend directory (front ++ [previous]) = directory.under (front ++ [previous]) :=
        inductionHypothesis (by simp) frontNames
      apply Path.eq_of_toList
      rw [here, Path.toList_child (Path.under_ne_empty directory (by simp) frontNames),
        Path.under_concat directory isName]

end Discovery

end SymbolFootprint
