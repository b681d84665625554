import Mathlib.Algebra.Order.BigOperators.Group.List
import Mathlib.Algebra.Order.Group.Nat
import Mathlib.Algebra.Ring.Nat
import SymbolFootprint.Fixture.StringTable
import SymbolFootprint.Proofs.Bytes.Runs

/-!
Strings that share their ends are still found where the table says.

Whatever the order in which strings are placed, each one stands at its offset with a zero byte
behind it (`place_runAt`): either it is written there, or the string before it ends with it. So
every string of a table is found under its index (`ofStrings_runAt`), and a table is never longer
than one that shares nothing (`length_ofStrings_le`).
-/

namespace SymbolFootprint.StringTable

theorem placingOrder_perm (strings : List Indexed) : (placingOrder strings).Perm strings := by
  refine ((List.mergeSort_perm _ _).map _).trans ?_
  have turnedTwice : ((fun entry : Indexed => { entry with string := entry.string.reverse }) ∘
      fun entry => { entry with string := entry.string.reverse }) = id := by
    funext entry
    simp only [Function.comp_apply, List.reverse_reverse, id_eq]
  rw [List.map_map, turnedTwice, List.map_id]

theorem mem_indexed {strings : List (List UInt8)} {entry : Indexed} :
    entry ∈ indexed strings ↔ strings[entry.index]? = some entry.string ∧ entry.string ≠ [] := by
  obtain ⟨index, string⟩ := entry
  simp only [indexed, List.mem_map, List.mem_filter, decide_eq_true_eq, Indexed.mk.injEq,
    Prod.exists]
  constructor
  · rintro ⟨other, position, ⟨membership, nonempty⟩, rfl, rfl⟩
    exact ⟨List.mk_mem_zipIdx_iff_getElem?.mp membership, nonempty⟩
  · rintro ⟨present, nonempty⟩
    exact ⟨string, index, ⟨List.mk_mem_zipIdx_iff_getElem?.mpr present, nonempty⟩, rfl, rfl⟩

theorem map_place (written : List UInt8) (size : Nat) (strings : List Indexed) :
    (place written size strings).1.map (fun placed => ⟨placed.index, placed.string⟩) = strings := by
  induction strings generalizing written size with
  | nil => rfl
  | cons entry rest inductionHypothesis =>
    obtain ⟨index, string⟩ := entry
    unfold place
    split <;> simp only [List.map_cons, inductionHypothesis]

/-- The bytes so far end with the string that was written last, and the zero byte behind it. -/
def EndsWith (before written : List UInt8) : Prop :=
  written = [] ∨ written ++ [0] <:+ before

/-- A string that the last one written ends with stands at the end of the bytes so far. -/
theorem EndsWith.runAt {before written string : List UInt8} (ends : EndsWith before written)
    (nonempty : string ≠ []) (within : string <:+ written) :
    RunAt before (before.length - string.length - 1) (string ++ [0]) := by
  rcases ends with rfl | shared
  · exact absurd (List.suffix_nil.mp within) nonempty
  · obtain ⟨front, rfl⟩ := within
    obtain ⟨start, rfl⟩ := shared
    refine ⟨start ++ front, [], by simp only [List.append_assoc, List.append_nil], ?_⟩
    simp only [List.length_append, List.length_singleton]
    omega

/-- Every string stands at its offset, with a zero byte behind it. -/
theorem place_runAt {before written : List UInt8} {strings : List Indexed}
    (ends : EndsWith before written) (nonempty : ∀ entry ∈ strings, entry.string ≠ []) :
    ∀ placed ∈ (place written before.length strings).1,
      RunAt (before ++ (place written before.length strings).2) placed.offset
        (placed.string ++ [0]) := by
  induction strings generalizing before written with
  | nil =>
    intro placed membership
    cases membership
  | cons entry rest inductionHypothesis =>
    obtain ⟨index, string⟩ := entry
    have others : ∀ entry ∈ rest, entry.string ≠ [] := fun entry inside =>
      nonempty entry (List.mem_cons_of_mem _ inside)
    intro placed membership
    unfold place at membership ⊢
    split at membership
    · next shared =>
      rw [if_pos shared]
      rcases List.mem_cons.mp membership with rfl | inside
      · have within := List.isSuffixOf_iff_suffix.mp shared
        exact (ends.runAt (nonempty _ (List.mem_cons_self ..)) within).append_right _
      · exact inductionHypothesis ends others placed inside
    · next fresh =>
      rw [if_neg fresh]
      have length : (before ++ (string ++ [0])).length = before.length + string.length + 1 := by
        simp only [List.length_append, List.length_singleton, Nat.add_assoc]
      have ends' : EndsWith (before ++ (string ++ [0])) string := .inr (List.suffix_append _ _)
      have split : ∀ bytes,
          before ++ (string ++ 0 :: bytes) = before ++ (string ++ [0]) ++ bytes := by
        intro bytes
        simp only [List.append_assoc, List.singleton_append]
      dsimp only
      rw [split]
      rcases List.mem_cons.mp membership with rfl | inside
      · exact (RunAt.append_left before (string ++ [0])).append_right _
      · rw [← length] at inside ⊢
        exact inductionHypothesis ends' others placed inside

/-- No table is longer than one in which all strings are written one after the other. -/
theorem length_place_le (written : List UInt8) (size : Nat) (strings : List Indexed) :
    (place written size strings).2.length ≤
      (strings.map fun entry => entry.string.length + 1).sum := by
  induction strings generalizing written size with
  | nil => exact Nat.le_refl 0
  | cons entry rest inductionHypothesis =>
    obtain ⟨index, string⟩ := entry
    unfold place
    rw [List.map_cons, List.sum_cons]
    split
    · exact (inductionHypothesis ..).trans (Nat.le_add_left _ _)
    · have later := inductionHypothesis string (size + string.length + 1)
      dsimp only
      rw [List.length_append, List.length_cons]
      omega

theorem sum_indexed_le (strings : List (List UInt8)) :
    ((indexed strings).map fun entry => entry.string.length + 1).sum ≤
      (strings.map fun string => string.length + 1).sum := by
  have sublist : ((indexed strings).map Indexed.string).Sublist strings := by
    rw [indexed, List.map_map]
    have kept := (List.filter_sublist (l := strings.zipIdx)
      (p := fun entry => decide (entry.1 ≠ []))).map Prod.fst
    rwa [List.zipIdx_map_fst] at kept
  have shorter := (sublist.map fun string => string.length + 1).sum_le_sum fun _ _ => Nat.zero_le _
  rwa [List.map_map] at shorter

theorem length_ofStrings_le (strings : List (List UInt8)) :
    (ofStrings strings).bytes.length ≤ (strings.map fun string => string.length + 1).sum + 1 := by
  have placed := length_place_le [] 1 (placingOrder (indexed strings))
  have order := ((placingOrder_perm (indexed strings)).map fun entry =>
    entry.string.length + 1).sum_eq
  have all := sum_indexed_le strings
  rw [order] at placed
  simp only [ofStrings, List.length_cons]
  omega

/-- The strings of a table are placed under their indices, except for empty ones. -/
theorem mem_placed_iff {strings : List (List UInt8)} {index : Nat} {string : List UInt8} :
    (∃ placed ∈ (ofStrings strings).placed, placed.index = index ∧ placed.string = string) ↔
      strings[index]? = some string ∧ string ≠ [] := by
  have listed : (⟨index, string⟩ : Indexed) ∈ placingOrder (indexed strings) ↔
      strings[index]? = some string ∧ string ≠ [] :=
    (placingOrder_perm _).mem_iff.trans mem_indexed
  rw [← listed]
  conv => rhs; rw [← map_place [] 1 (placingOrder (indexed strings))]
  simp only [List.mem_map, Indexed.mk.injEq]
  rfl

/-- Each string of a table stands at the offset for its index, with a zero byte behind it. -/
theorem ofStrings_runAt {strings : List (List UInt8)} {index : Nat} {string : List UInt8}
    (present : strings[index]? = some string) :
    RunAt (ofStrings strings).bytes ((ofStrings strings).offset index) (string ++ [0]) := by
  unfold offset
  cases found : (ofStrings strings).placed.find? (·.index = index) with
  | none =>
    have absent := List.find?_eq_none.mp found
    have empty : string = [] := by
      by_contra nonempty
      obtain ⟨placed, membership, same, _⟩ := mem_placed_iff.mpr ⟨present, nonempty⟩
      exact absent placed membership (decide_eq_true same)
    rw [empty]
    exact (RunAt.refl [0]).append_right _
  | some placed =>
    have membership := List.mem_of_find?_eq_some found
    have same : placed.index = index := by simpa using List.find?_some found
    have own := (mem_placed_iff.mp ⟨placed, membership, same, rfl⟩).1
    have equal : placed.string = string := Option.some.inj (own.symm.trans present)
    rw [← equal]
    have nonempty : ∀ entry ∈ placingOrder (indexed strings), entry.string ≠ [] :=
      fun entry inside => (mem_indexed.mp ((placingOrder_perm _).mem_iff.mp inside)).2
    have start : EndsWith [0] [] := .inl rfl
    exact place_runAt start nonempty placed membership

theorem offset_lt_length {strings : List (List UInt8)} {index : Nat} {string : List UInt8}
    (present : strings[index]? = some string) :
    (ofStrings strings).offset index < (ofStrings strings).bytes.length := by
  have stop := (ofStrings_runAt present).stop_le
  rw [List.length_append, List.length_singleton] at stop
  omega

end SymbolFootprint.StringTable
