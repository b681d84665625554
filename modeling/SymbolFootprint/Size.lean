/-!
Byte counts: natural numbers below `2 ^ 64`, with an addition that stops at the largest count.

Counts form a commutative monoid under this addition, so a total does not depend on the order or
the grouping of its parts. Another addition starts again at zero (`Size.wrappingAdd`).
-/

namespace SymbolFootprint

/-- A number of bytes. -/
@[ext]
structure Size where
  bytes : Nat
  bounded : bytes < 0x10000000000000000
deriving DecidableEq

namespace Size

/-- The number itself, or the largest count if the number is too large for one. -/
def clamp (n : Nat) : Size :=
  ⟨min n 0xFFFFFFFFFFFFFFFF, by omega⟩

/-- The number as a count, if it is small enough. -/
def ofNat? (n : Nat) : Option Size :=
  if h : n < 0x10000000000000000 then some ⟨n, h⟩ else none

instance : Zero Size := ⟨⟨0, by decide⟩⟩

instance : Inhabited Size := ⟨0⟩

instance : Add Size := ⟨fun a b => clamp (a.bytes + b.bytes)⟩

/-- The sum modulo `2 ^ 64`. -/
def wrappingAdd (a b : Size) : Size :=
  ⟨(a.bytes + b.bytes) % 0x10000000000000000, Nat.mod_lt _ (by decide)⟩

instance : LT Size := ⟨fun a b => a.bytes < b.bytes⟩

instance (a b : Size) : Decidable (a < b) := inferInstanceAs (Decidable (a.bytes < b.bytes))

instance : LE Size := ⟨fun a b => a.bytes ≤ b.bytes⟩

instance (a b : Size) : Decidable (a ≤ b) := inferInstanceAs (Decidable (a.bytes ≤ b.bytes))

@[simp]
theorem bytes_clamp (n : Nat) : (clamp n).bytes = min n 0xFFFFFFFFFFFFFFFF := rfl

@[simp]
theorem bytes_zero : (0 : Size).bytes = 0 := rfl

@[simp]
theorem bytes_add (a b : Size) : (a + b).bytes = min (a.bytes + b.bytes) 0xFFFFFFFFFFFFFFFF := rfl

@[simp]
theorem bytes_wrappingAdd (a b : Size) :
    (a.wrappingAdd b).bytes = (a.bytes + b.bytes) % 0x10000000000000000 := rfl

theorem lt_iff {a b : Size} : a < b ↔ a.bytes < b.bytes := Iff.rfl

theorem le_iff {a b : Size} : a ≤ b ↔ a.bytes ≤ b.bytes := Iff.rfl

theorem ofNat?_eq_some_iff {n : Nat} {s : Size} : ofNat? n = some s ↔ s.bytes = n := by
  unfold ofNat?
  split
  · simp [Size.ext_iff, eq_comm]
  · have := s.bounded
    simp only [reduceCtorEq, false_iff]
    omega

@[simp]
theorem clamp_bytes (s : Size) : clamp s.bytes = s := by
  have := s.bounded
  ext
  simp only [bytes_clamp]
  omega

protected theorem add_comm (a b : Size) : a + b = b + a := by
  ext
  simp only [bytes_add]
  omega

protected theorem add_assoc (a b c : Size) : a + b + c = a + (b + c) := by
  ext
  simp only [bytes_add]
  omega

@[simp]
protected theorem zero_add (a : Size) : 0 + a = a := by
  have := a.bounded
  ext
  simp only [bytes_add, bytes_zero]
  omega

@[simp]
protected theorem add_zero (a : Size) : a + 0 = a := by
  rw [Size.add_comm, Size.zero_add]

instance : Std.Associative (α := Size) (· + ·) := ⟨Size.add_assoc⟩

instance : Std.Commutative (α := Size) (· + ·) := ⟨Size.add_comm⟩

end Size

end SymbolFootprint
