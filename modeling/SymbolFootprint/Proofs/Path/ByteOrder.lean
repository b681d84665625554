import SymbolFootprint.Proofs.Path.Order
import SymbolFootprint.Proofs.Text.ByteOrder

/-!
The order of paths, with names in the order of their bytes.

The keys of components are in the order of the components (`PathPart.comesBefore_iff`), so the keys
of paths are in the order of the paths (`Path.comesBefore_iff`).
-/

namespace SymbolFootprint

/-- The order of components: the root, the directory itself, the directory above, and last the
names, which are in the order of their bytes. -/
inductive PathPart.ComesBefore : PathPart → PathPart → Prop
  | rank {a b} : a.rank < b.rank → ComesBefore a b
  | name {a b} : Utf8.encode a.toList < Utf8.encode b.toList → ComesBefore (.name a) (.name b)

/-- The order of paths: the first component that differs decides, and the beginning of a path comes
before the path. -/
def Path.ComesBefore (a b : Path) : Prop :=
  List.Lex PathPart.ComesBefore a.parts b.parts

/-- Lists are in the lexicographic order of a relation if their keys are in lexicographic order. -/
theorem lex_iff_map_lt {Item Key : Type*} [LT Key] {before : Item → Item → Prop} {key : Item → Key}
    (keyed : ∀ a b, before a b ↔ key a < key b) (injective : Function.Injective key)
    {first second : List Item} :
    List.Lex before first second ↔ first.map key < second.map key := by
  induction first generalizing second with
  | nil =>
    cases second with
    | nil => simp
    | cons b second => simp
  | cons a first inductionHypothesis =>
    cases second with
    | nil => simp
    | cons b second =>
      rw [List.cons_lex_cons_iff, keyed, inductionHypothesis, List.map_cons, List.map_cons,
        List.cons_lt_cons_iff, injective.eq_iff]

theorem PathPart.comesBefore_iff (a b : PathPart) : a.ComesBefore b ↔ a.key < b.key := by
  rw [key, key, Prod.Lex.toLex_lt_toLex]
  constructor
  · rintro (less | less)
    · exact .inl less
    · exact .inr ⟨rfl, String.lt_iff.mpr (Utf8.encode_lt_encode_iff.mp less)⟩
  · rintro (less | ⟨ranks, labels⟩)
    · exact .rank less
    · have names : ∃ text other, a = .name text ∧ b = .name other := by
        cases a <;> cases b <;> simp_all [PathPart.rank, label]
      obtain ⟨text, other, rfl, rfl⟩ := names
      exact .name (Utf8.encode_lt_encode_iff.mpr (String.lt_iff.mp labels))

theorem Path.comesBefore_iff (a b : Path) : a.ComesBefore b ↔ a.key < b.key :=
  lex_iff_map_lt PathPart.comesBefore_iff PathPart.key_injective

end SymbolFootprint
