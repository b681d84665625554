import SymbolFootprint.Proofs.Path.Below

/-!
The names of compiled files, and the assemblies that they are named after.

The file name of a path is its last component. A piece between slashes that is empty or a dot is no
component, so it does not matter whether it is there (`parts_between`, `parts_behind`). A file name
stands for an assembly exactly if it is one of the names that are formed from it (`NamedAfter`): of
the endings `.dll.so` and `.so` one comes off, and the longer one where both could
(`assemblyName_eq_iff`).
-/

namespace SymbolFootprint

/-- The names of files for an assembly. A name with one of the endings stands for what is before the
longest ending that it has. Names with another beginning stand for themselves. -/
inductive NamedAfter (assembly : String) : String → Prop
  | library : NamedAfter assembly ("libaot-" ++ assembly ++ ".dll.so")
  | shared : ¬".dll".toList <:+ assembly.toList →
      NamedAfter assembly ("libaot-" ++ assembly ++ ".so")
  | bare : ¬".so".toList <:+ assembly.toList → NamedAfter assembly ("libaot-" ++ assembly)
  | other : ¬"libaot-".toList <+: assembly.toList → NamedAfter assembly assembly

namespace Text

theorem afterStart?_eq_none_iff {start text : List Char} :
    afterStart? start text = none ↔ ¬start <+: text := by
  rw [← not_iff_not, not_not, ← ne_eq, Option.ne_none_iff_exists']
  simp only [afterStart?_eq_some_iff]
  exact exists_congr fun rest => eq_comm

theorem beforeEnd?_eq_none_iff {ending text : List Char} :
    beforeEnd? ending text = none ↔ ¬ending <:+ text := by
  rw [← not_iff_not, not_not, ← ne_eq, Option.ne_none_iff_exists']
  simp only [beforeEnd?_eq_some_iff]
  exact exists_congr fun rest => eq_comm

end Text

namespace Path

section Spelling

/-- A piece between slashes that is no component. -/
def IsSkipped (piece : String) : Prop :=
  piece = "" ∨ piece = "."

theorem IsSkipped.filterMap_part? {piece : String} (skipped : IsSkipped piece) :
    (⟨piece⟩ : Path).pieces.filterMap part? = [] := by
  rcases skipped with rfl | rfl <;> decide

theorem pieces_slash (front back : String) :
    (⟨front ++ "/" ++ back⟩ : Path).pieces =
      (⟨front⟩ : Path).pieces ++ (⟨back⟩ : Path).pieces := by
  simp only [pieces, String.toList_append]
  rw [List.append_assoc]
  exact Text.split_append_cons '/' front.toList back.toList

/-- Between two slashes it does not matter whether there is a piece that is no component. -/
theorem parts_between {skipped : String} (isSkipped : IsSkipped skipped) (front back : String) :
    (⟨front ++ "/" ++ skipped ++ "/" ++ back⟩ : Path).parts =
      (⟨front ++ "/" ++ back⟩ : Path).parts := by
  have piecesBack : (⟨back⟩ : Path).pieces ≠ [] := Text.split_ne_nil '/' _
  have start : startPart? ((⟨front⟩ : Path).pieces ++ ((⟨skipped⟩ : Path).pieces ++
      (⟨back⟩ : Path).pieces)) = startPart? ((⟨front⟩ : Path).pieces ++ (⟨back⟩ : Path).pieces) :=
    startPart?_append (Text.split_ne_nil '/' _) fun _ =>
      ⟨List.append_ne_nil_of_right_ne_nil _ piecesBack, piecesBack⟩
  rw [parts_eq, parts_eq, start?, start?, pieces_slash, pieces_slash, pieces_slash,
    List.append_assoc, start]
  simp only [List.filterMap_append, isSkipped.filterMap_part?, List.nil_append]

theorem parts_behind {skipped : String} (isSkipped : IsSkipped skipped) {front : String}
    (nonempty : front ≠ "") :
    (⟨front ++ "/" ++ skipped⟩ : Path).parts = (⟨front⟩ : Path).parts := by
  have others : (⟨front⟩ : Path).pieces ≠ [[]] := by
    intro single
    have text := Text.join_split '/' front.toList
    rw [← pieces, single] at text
    exact nonempty (String.toList_eq_nil_iff.mp text.symm)
  have start : startPart? ((⟨front⟩ : Path).pieces ++ (⟨skipped⟩ : Path).pieces) =
      startPart? ((⟨front⟩ : Path).pieces ++ []) :=
    startPart?_append (Text.split_ne_nil '/' _) fun single => absurd single others
  rw [parts_eq, parts_eq, start?, start?, pieces_slash, start, List.append_nil,
    List.filterMap_append, isSkipped.filterMap_part?, List.append_nil]

theorem fileName?_of_getLast? {path : Path} {name : String}
    (last : path.pieces.getLast? = some name.toList)
    (isName : part? name.toList = some (.name name)) : path.fileName? = some name := by
  obtain ⟨front, whole⟩ := List.getLast?_eq_some_iff.mp last
  rw [fileName?, parts_eq, whole, List.filterMap_append, List.filterMap_cons_some isName,
    List.filterMap_nil, ← List.append_assoc, List.getLast?_concat]

/-- What is written alone or behind a slash, and has no slash, is the file name. -/
theorem fileName?_behind {front name : String}
    (placed : front = "" ∨ ∃ directory, front = directory ++ "/") (noSlash : '/' ∉ name.toList)
    (isName : part? name.toList = some (.name name)) :
    (⟨front ++ name⟩ : Path).fileName? = some name := by
  have own : (⟨name⟩ : Path).pieces = [name.toList] :=
    Text.split_join (List.cons_ne_nil name.toList []) (List.forall_mem_singleton.mpr noSlash)
  apply fileName?_of_getLast? _ isName
  rcases placed with rfl | ⟨directory, rfl⟩
  · rw [String.empty_append, own, List.getLast?_singleton]
  · rw [pieces_slash, own, List.getLast?_concat]

end Spelling

section Naming

theorem assemblyOfName_start (rest : List Char) :
    assemblyOfName ("libaot-".toList ++ rest) =
      ((Text.beforeEnd? ".dll.so".toList rest).or
        (Text.beforeEnd? ".so".toList rest)).getD rest := by
  have start : Text.afterStart? assemblyStart ("libaot-".toList ++ rest) = some rest :=
    Text.afterStart?_eq_some_iff.mpr rfl
  rw [assemblyOfName, start]

theorem assemblyOfName_of_other {name : List Char} (other : ¬"libaot-".toList <+: name) :
    assemblyOfName name = name := by
  have start : Text.afterStart? assemblyStart name = none := Text.afterStart?_eq_none_iff.mpr other
  rw [assemblyOfName, start]

/-- The longer ending is the shorter one behind another piece. -/
theorem dllEnding_suffix_iff {assembly : List Char} :
    ".dll.so".toList <:+ assembly ++ ".so".toList ↔ ".dll".toList <:+ assembly := by
  have apart : ".dll.so".toList = ".dll".toList ++ ".so".toList := by decide
  rw [apart]
  exact List.suffix_append_self_iff

/-- What is left of a name behind its beginning, by the ending that it has. -/
theorem assemblyOfName_of_named {assembly name : String} (named : NamedAfter assembly name) :
    assemblyOfName name.toList = assembly.toList := by
  cases named with
  | library =>
    have longer := Text.beforeEnd?_eq_some_iff.mpr
      (rfl : assembly.toList ++ ".dll.so".toList = _)
    rw [String.toList_append, String.toList_append, List.append_assoc, assemblyOfName_start, longer]
    rfl
  | shared notLibrary =>
    have longer := Text.beforeEnd?_eq_none_iff.mpr (mt dllEnding_suffix_iff.mp notLibrary)
    have shorter := Text.beforeEnd?_eq_some_iff.mpr (rfl : assembly.toList ++ ".so".toList = _)
    rw [String.toList_append, String.toList_append, List.append_assoc, assemblyOfName_start, longer,
      shorter]
    rfl
  | bare notShared =>
    have apart : ".so".toList <:+ ".dll.so".toList := by decide
    have longer := Text.beforeEnd?_eq_none_iff.mpr fun ends => notShared (apart.trans ends)
    have shorter := Text.beforeEnd?_eq_none_iff.mpr notShared
    rw [String.toList_append, assemblyOfName_start, longer, shorter]
    rfl
  | other notStart => exact assemblyOfName_of_other notStart

theorem named_of_toList {assembly name spelled : String} (named : NamedAfter assembly spelled)
    (same : name.toList = spelled.toList) : NamedAfter assembly name :=
  String.toList_inj.mp same ▸ named

theorem named_of_assemblyOfName {assembly name : String}
    (own : assemblyOfName name.toList = assembly.toList) : NamedAfter assembly name := by
  by_cases start : "libaot-".toList <+: name.toList
  · obtain ⟨rest, whole⟩ := start
    rw [← whole, assemblyOfName_start] at own
    cases longer : Text.beforeEnd? ".dll.so".toList rest with
    | some front =>
      rw [longer, Option.some_or, Option.getD_some] at own
      refine named_of_toList .library ?_
      rw [← whole, Text.beforeEnd?_eq_some_iff.mp longer, own, String.toList_append,
        String.toList_append, List.append_assoc]
    | none =>
      have notLibrary := Text.beforeEnd?_eq_none_iff.mp longer
      rw [longer, Option.none_or] at own
      cases shorter : Text.beforeEnd? ".so".toList rest with
      | some front =>
        have ends := Text.beforeEnd?_eq_some_iff.mp shorter
        rw [shorter, Option.getD_some] at own
        rw [ends, own, dllEnding_suffix_iff] at notLibrary
        refine named_of_toList (.shared notLibrary) ?_
        rw [← whole, ends, own, String.toList_append, String.toList_append, List.append_assoc]
      | none =>
        have notShared := Text.beforeEnd?_eq_none_iff.mp shorter
        rw [shorter, Option.getD_none] at own
        rw [own] at notShared
        refine named_of_toList (.bare notShared) ?_
        rw [← whole, own, String.toList_append]
  · rw [assemblyOfName_of_other start] at own
    rw [String.toList_inj.mp own] at start ⊢
    exact .other start

theorem assemblyName_eq_iff {path : Path} {name : String} (isName : path.fileName? = some name)
    (assembly : String) : path.assemblyName = assembly ↔ NamedAfter assembly name := by
  rw [assemblyName, isName, ← String.toList_inj, String.toList_ofList]
  exact ⟨named_of_assemblyOfName, assemblyOfName_of_named⟩

theorem fileName?_congr {path other : Path}
    (last : path.parts.getLast? = other.parts.getLast?) : path.fileName? = other.fileName? := by
  rw [fileName?, fileName?, last]

theorem assemblyName_congr {path other : Path}
    (last : path.parts.getLast? = other.parts.getLast?) :
    path.assemblyName = other.assemblyName := by
  rw [assemblyName, assemblyName, fileName?_congr last]

/-- A path that is named after an assembly has this file name, wherever it is. -/
theorem fileName?_of_start {front rest : String}
    (placed : front = "" ∨ ∃ directory, front = directory ++ "/") (noSlash : '/' ∉ rest.toList) :
    (⟨front ++ ("libaot-" ++ rest)⟩ : Path).fileName? = some ("libaot-" ++ rest) := by
  apply fileName?_behind placed
  · rw [String.toList_append, List.mem_append, not_or]
    exact ⟨by decide, noSlash⟩
  · have letter : ("libaot-" ++ rest).toList.head? = some 'l' := by
      rw [String.toList_append]
      rfl
    have differs (short : String) (other : short.toList.head? ≠ some 'l') :
        "libaot-" ++ rest ≠ short := fun same => other (same ▸ letter)
    exact part?_eq_name (differs "" (by decide)) (differs "." (by decide))
      (differs ".." (by decide))

end Naming

/-- The name of an assembly depends on the last component of a path alone, however the path is
spelled. The names for an assembly are file names anywhere, and a file name gives an assembly
exactly if it is one of the names for it. -/
theorem assemblyName_inverts_naming :
    (∀ path other : Path, path.parts.getLast? = other.parts.getLast? →
      path.assemblyName = other.assemblyName) ∧
    (∀ path other : Path, path.same other = true → path.assemblyName = other.assemblyName) ∧
    (∀ skipped front back : String, IsSkipped skipped →
      (⟨front ++ "/" ++ skipped ++ "/" ++ back⟩ : Path).same ⟨front ++ "/" ++ back⟩ = true ∧
      (front ≠ "" → (⟨front ++ "/" ++ skipped⟩ : Path).same ⟨front⟩ = true)) ∧
    (∀ front rest : String, (front = "" ∨ ∃ directory, front = directory ++ "/") →
      '/' ∉ rest.toList →
      (⟨front ++ ("libaot-" ++ rest)⟩ : Path).fileName? = some ("libaot-" ++ rest)) ∧
    ∀ (path : Path) (name : String), path.fileName? = some name →
      ∀ assembly, path.assemblyName = assembly ↔ NamedAfter assembly name := by
  refine ⟨fun _ _ => assemblyName_congr, ?_, ?_, ?_, ?_⟩
  · intro path other same
    exact assemblyName_congr (congrArg List.getLast? (of_decide_eq_true same))
  · intro skipped front back isSkipped
    exact ⟨decide_eq_true (parts_between isSkipped front back),
      fun nonempty => decide_eq_true (parts_behind isSkipped nonempty)⟩
  · intro front rest
    exact fileName?_of_start
  · intro path name
    exact assemblyName_eq_iff

/-- A name that repeats the beginning and an ending, on a path with superfluous pieces. -/
theorem assemblyName_inverts_naming_repeated :
    let name := "libaot-libaot-x.so.dll.so"
    let path : Path := ⟨"out" ++ "/" ++ "" ++ "/" ++ (name ++ "/" ++ ".")⟩
    IsSkipped "" ∧ IsSkipped "." ∧ '/' ∉ "libaot-x.so.dll.so".toList ∧
    path.same ⟨"out" ++ "/" ++ (name ++ "/" ++ ".")⟩ = true ∧
    (⟨"out/" ++ name ++ "/" ++ "."⟩ : Path).same ⟨"out/" ++ name⟩ = true ∧
    (⟨"out/" ++ name⟩ : Path).fileName? = some name ∧
    path.assemblyName = "libaot-x.so" := by
  intro name path
  obtain ⟨byLast, bySame, skipped, placed, named⟩ := assemblyName_inverts_naming
  have empty : IsSkipped "" := .inl rfl
  have dot : IsSkipped "." := .inr rfl
  have noSlash : '/' ∉ "libaot-x.so.dll.so".toList := by decide
  have slashes := (skipped "" "out" (name ++ "/" ++ ".") empty).1
  have behind := (skipped "." ("out/" ++ name) "" dot).2 (by decide)
  have isName := placed "out/" "libaot-x.so.dll.so" (.inr ⟨"out", rfl⟩) noSlash
  have assembly : (⟨"out/" ++ name⟩ : Path).assemblyName = "libaot-x.so" :=
    (named _ name isName "libaot-x.so").mpr .library
  refine ⟨empty, dot, noSlash, slashes, behind, isName, ?_⟩
  rw [bySame _ _ slashes, ← assembly]
  exact bySame _ _ behind

end Path

end SymbolFootprint
