import Mathlib.Data.List.Lex
import Mathlib.Data.String.Basic
import SymbolFootprint.Proofs.Text.Utf8

/-!
The order of texts and the order of their bytes.

Of two characters the smaller one has bytes that come first, whatever follows them: the first byte
tells apart encodings of different lengths, and the bytes that continue a character are digits of
its number (`Ascending.continued`, `Encoding.precedes`). So texts are in the order of their
characters exactly if their bytes are in order (`encode_lt_encode_iff`).
-/

namespace SymbolFootprint.Utf8

/-- The first bytes come before the second ones, whatever follows either of them. -/
def Precedes (first second : List UInt8) : Prop :=
  ∀ rest others, first ++ rest < second ++ others

namespace Precedes

theorem of_lt {byte other : UInt8} (less : byte < other) (front back : List UInt8) :
    Precedes (byte :: front) (other :: back) := by
  intro rest others
  exact List.cons_lt_cons_iff.mpr (.inl less)

theorem append {first second : List UInt8} (precedes : Precedes first second)
    (more others : List UInt8) : Precedes (first ++ more) (second ++ others) := by
  intro rest rests
  rw [List.append_assoc, List.append_assoc]
  exact precedes _ _

theorem prepend {first second : List UInt8} (precedes : Precedes first second)
    (front : List UInt8) : Precedes (front ++ first) (front ++ second) := by
  intro rest others
  rw [List.append_assoc, List.append_assoc]
  exact List.append_left_lt (precedes rest others)

end Precedes

theorem ofNat_lt_ofNat {n m : Nat} (less : n < m) (fits : m < 0x100) :
    UInt8.ofNat n < UInt8.ofNat m := by
  rw [UInt8.lt_iff_toNat_lt, UInt8.toNat_ofNat', UInt8.toNat_ofNat', Nat.mod_eq_of_lt fits,
    Nat.mod_eq_of_lt (Nat.lt_trans less fits)]
  exact less

/-- Larger numbers below the bound have later bytes. -/
def Ascending (bound : Nat) (bytes : Nat → List UInt8) : Prop :=
  ∀ n m, n < m → m < bound → Precedes (bytes n) (bytes m)

theorem ascending_opening (bound offset : Nat) (fits : bound + offset ≤ 0x100) :
    Ascending bound fun n => [UInt8.ofNat (n + offset)] := by
  intro n m less below
  exact .of_lt (ofNat_lt_ofNat (by omega) (by omega)) [] []

/-- One more byte that continues a character is one more digit of its number. -/
theorem Ascending.continued {bound : Nat} {bytes : Nat → List UInt8}
    (ascending : Ascending bound bytes) :
    Ascending (bound * 0x40) fun n => bytes (n / 0x40) ++ [UInt8.ofNat (continuation n)] := by
  intro n m less below
  by_cases smaller : n / 0x40 < m / 0x40
  · exact (ascending _ _ smaller (by omega)).append _ _
  · have same : n / 0x40 = m / 0x40 := by omega
    have digits : continuation n < continuation m ∧ continuation m < 0x100 := by
      simp only [continuation]
      omega
    dsimp only
    rw [same]
    exact (Precedes.of_lt (ofNat_lt_ofNat digits.1 digits.2) [] []).prepend _

/-- The bytes for a number, by their count. -/
inductive Encoding : Nat → List UInt8 → Prop
  | one {n} : n < 0x80 → Encoding n [UInt8.ofNat n]
  | two {n} : 0x80 ≤ n → n < 0x800 →
      Encoding n [UInt8.ofNat (n / 0x40 + 0xC0), UInt8.ofNat (continuation n)]
  | three {n} : 0x800 ≤ n → n < 0x10000 →
      Encoding n
        [UInt8.ofNat (n / 0x40 / 0x40 + 0xE0), UInt8.ofNat (continuation (n / 0x40)),
          UInt8.ofNat (continuation n)]
  | four {n} : 0x10000 ≤ n → n < 0x110000 →
      Encoding n
        [UInt8.ofNat (n / 0x40 / 0x40 / 0x40 + 0xF0),
          UInt8.ofNat (continuation (n / 0x40 / 0x40)), UInt8.ofNat (continuation (n / 0x40)),
          UInt8.ofNat (continuation n)]

theorem encoding_utf8EncodeChar (c : Char) : Encoding c.toNat (String.utf8EncodeChar c) := by
  have scalar : c.toNat < 0xD800 ∨ 0xDFFF < c.toNat ∧ c.toNat < 0x110000 := c.valid
  unfold String.utf8EncodeChar
  extract_lets n
  change n < 0xD800 ∨ 0xDFFF < n ∧ n < 0x110000 at scalar
  change Encoding n _
  split
  · exact .one (by omega)
  · split
    · have first : n / 64 % 0x20 = n / 0x40 := by omega
      rw [first]
      exact .two (by omega) (by omega)
    · split
      · have first : n / 4096 % 0x10 = n / 0x40 / 0x40 := by omega
        rw [first]
        exact .three (by omega) (by omega)
      · have first : n / 262144 % 0x08 = n / 0x40 / 0x40 / 0x40 := by omega
        have second : n / 4096 % 0x40 = n / 0x40 / 0x40 % 0x40 := by omega
        rw [first, second]
        exact .four (by omega) (by omega)

theorem Encoding.precedes {n m : Nat} {bytes others : List UInt8} (encoding : Encoding n bytes)
    (other : Encoding m others) (less : n < m) : Precedes bytes others := by
  have apart {byte otherByte : Nat} (front back : List UInt8) (smaller : byte < otherByte)
      (fits : otherByte < 0x100) :
      Precedes (UInt8.ofNat byte :: front) (UInt8.ofNat otherByte :: back) :=
    .of_lt (ofNat_lt_ofNat smaller fits) front back
  cases encoding with
  | one high =>
    cases other with
    | one => exact apart _ _ less (by omega)
    | two | three | four => exact apart _ _ (by omega) (by omega)
  | two low high =>
    cases other with
    | one => omega
    | two => exact (ascending_opening 0x20 0xC0 (by decide)).continued n m less (by omega)
    | three | four => exact apart _ _ (by omega) (by omega)
  | three low high =>
    cases other with
    | one | two => omega
    | three =>
      exact (ascending_opening 0x10 0xE0 (by decide)).continued.continued n m less (by omega)
    | four => exact apart _ _ (by omega) (by omega)
  | four low high =>
    cases other with
    | one | two | three => omega
    | four =>
      exact (ascending_opening 8 0xF0 (by decide)).continued.continued.continued n m less
        (by omega)

theorem precedes_utf8EncodeChar {c d : Char} (less : c < d) :
    Precedes (String.utf8EncodeChar c) (String.utf8EncodeChar d) :=
  (encoding_utf8EncodeChar c).precedes (encoding_utf8EncodeChar d) less

theorem encode_lt_encode {first second : List Char} (less : first < second) :
    encode first < encode second := by
  induction List.lex_lt.mpr less with
  | @nil c rest =>
    obtain ⟨byte, bytes, same⟩ := List.exists_cons_of_ne_nil String.utf8EncodeChar_ne_nil
    rw [encode, encode, List.flatMap_cons, same]
    exact List.nil_lt_cons ..
  | cons later inductionHypothesis =>
    exact List.append_left_lt (inductionHypothesis (List.lex_lt.mp later))
  | rel smaller => exact precedes_utf8EncodeChar smaller _ _

/-- Texts are in the order of their bytes. -/
theorem encode_lt_encode_iff {first second : List Char} :
    encode first < encode second ↔ first < second := by
  refine ⟨fun less => ?_, encode_lt_encode⟩
  rcases lt_trichotomy first second with before | rfl | after
  · exact before
  · exact absurd less (List.lt_irrefl _)
  · exact absurd less (List.lt_asymm (encode_lt_encode after))

end SymbolFootprint.Utf8
