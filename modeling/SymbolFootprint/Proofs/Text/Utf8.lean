import SymbolFootprint.Text.Utf8

/-!
Reading what `Utf8.encode` writes.

After the bytes of a character up to some point, the bits that are pending are the number of the
character without its last bits (`scan_continuation`). So each character comes back as it was, and a
text that is written and read is the same text, without faults (`decode?_encode`). Only the
character zero is written with a zero byte (`zero_not_mem_encode`).
-/

namespace SymbolFootprint.Utf8

def continuation (n : Nat) : Nat :=
  n % 0x40 + 0x80

theorem continuation_mem_tail (n : Nat) :
    tail.1 ≤ continuation n ∧ continuation n ≤ tail.2 := by
  simp only [continuation, tail]
  omega

theorem toNat_continuation (n : Nat) : (UInt8.ofNat (continuation n)).toNat = continuation n := by
  rw [UInt8.toNat_ofNat', Nat.mod_eq_of_lt]
  simp only [continuation]
  omega

theorem bits_continuation (n : Nat) : n / 0x40 * 0x40 + continuation n % 0x40 = n := by
  simp only [continuation]
  omega

/-- A byte that continues a character adds the next bits of its number. -/
theorem scan_continuation {n : Nat} {range next : Nat × Nat} (more : List (Nat × Nat))
    (inRange : range.1 ≤ continuation n ∧ continuation n ≤ range.2) (rest : List UInt8) :
    scan ⟨n / 0x40, range :: next :: more⟩ (UInt8.ofNat (continuation n) :: rest) =
      scan ⟨n, next :: more⟩ rest := by
  rw [scan, toNat_continuation]
  simp [advance, inRange, bits_continuation]

theorem scan_last {n : Nat} {range : Nat × Nat}
    (inRange : range.1 ≤ continuation n ∧ continuation n ≤ range.2) (rest : List UInt8) :
    scan ⟨n / 0x40, [range]⟩ (UInt8.ofNat (continuation n) :: rest) =
      some (Char.ofNat n) :: scan idle rest := by
  rw [scan, toNat_continuation]
  simp [advance, inRange, bits_continuation]

theorem scan_opening {n : Nat} (fits : n < 0x100) {next : Pending} (opens : opening n = ([], next))
    (rest : List UInt8) : scan idle (UInt8.ofNat n :: rest) = scan next rest := by
  rw [scan, UInt8.toNat_ofNat', Nat.mod_eq_of_lt fits]
  change (opening n).1 ++ scan (opening n).2 rest = _
  rw [opens, List.nil_append]

theorem scan_one {n : Nat} (high : n < 0x80) (rest : List UInt8) :
    scan idle (UInt8.ofNat n :: rest) = some (Char.ofNat n) :: scan idle rest := by
  rw [scan, UInt8.toNat_ofNat', Nat.mod_eq_of_lt (by omega)]
  change (opening n).1 ++ scan (opening n).2 rest = _
  rw [opening, if_pos high, List.singleton_append]

theorem opening_two {n : Nat} (low : 2 ≤ n) (high : n < 0x20) :
    opening (n + 0xC0) = ([], ⟨n, [tail]⟩) := by
  unfold opening
  rw [if_neg (by omega), if_neg (by omega), if_pos (by omega), Nat.add_sub_cancel]

/-- The second byte of three leaves out encodings that are too long, and surrogates. -/
def secondOfThree (n : Nat) : Nat × Nat :=
  if n = 0 then (0xA0, 0xBF) else if n = 0xD then (0x80, 0x9F) else tail

theorem opening_three {n : Nat} (high : n < 0x10) :
    opening (n + 0xE0) = ([], ⟨n, [secondOfThree n, tail]⟩) := by
  unfold opening secondOfThree
  rw [if_neg (by omega), if_neg (by omega), if_neg (by omega)]
  by_cases zero : n = 0
  · simp [zero]
  · rw [if_neg (by omega), if_neg zero]
    by_cases surrogate : n = 0xD
    · simp [surrogate]
    · rw [if_neg (by omega), if_pos (by omega), if_neg surrogate, Nat.add_sub_cancel]

/-- The second byte of four leaves out encodings that are too long, and values beyond all
characters. -/
def secondOfFour (n : Nat) : Nat × Nat :=
  if n = 0 then (0x90, 0xBF) else if n = 4 then (0x80, 0x8F) else tail

theorem opening_four {n : Nat} (high : n < 5) :
    opening (n + 0xF0) = ([], ⟨n, [secondOfFour n, tail, tail]⟩) := by
  unfold opening secondOfFour
  rw [if_neg (by omega), if_neg (by omega), if_neg (by omega), if_neg (by omega),
    if_neg (by omega), if_neg (by omega)]
  by_cases zero : n = 0
  · simp [zero]
  · rw [if_neg (by omega), if_neg zero]
    by_cases last : n = 4
    · simp [last]
    · rw [if_pos (by omega), if_neg last, Nat.add_sub_cancel]

theorem mem_secondOfThree {n : Nat} (low : 0x800 ≤ n) (scalar : n < 0xD800 ∨ 0xDFFF < n)
    (high : n < 0x10000) :
    (secondOfThree (n / 0x40 / 0x40)).1 ≤ continuation (n / 0x40) ∧
      continuation (n / 0x40) ≤ (secondOfThree (n / 0x40 / 0x40)).2 := by
  unfold secondOfThree continuation tail
  split
  · dsimp only
    omega
  · split <;> dsimp only <;> omega

theorem mem_secondOfFour {n : Nat} (low : 0x10000 ≤ n) (high : n < 0x110000) :
    (secondOfFour (n / 0x40 / 0x40 / 0x40)).1 ≤ continuation (n / 0x40 / 0x40) ∧
      continuation (n / 0x40 / 0x40) ≤ (secondOfFour (n / 0x40 / 0x40 / 0x40)).2 := by
  unfold secondOfFour continuation tail
  split
  · dsimp only
    omega
  · split <;> dsimp only <;> omega

theorem scan_utf8EncodeChar (c : Char) (rest : List UInt8) :
    scan idle (String.utf8EncodeChar c ++ rest) = some c :: scan idle rest := by
  have scalar : c.toNat < 0xD800 ∨ 0xDFFF < c.toNat ∧ c.toNat < 0x110000 := c.valid
  have same : Char.ofNat c.toNat = c := Char.ofNat_toNat c
  unfold String.utf8EncodeChar
  extract_lets n
  change Char.ofNat n = c at same
  change n < 0xD800 ∨ 0xDFFF < n ∧ n < 0x110000 at scalar
  split
  · rw [List.singleton_append, scan_one (by omega), same]
  · split
    · have first : n / 64 % 0x20 + 0xC0 = n / 0x40 + 0xC0 := by omega
      rw [first, List.cons_append, List.singleton_append,
        scan_opening (by omega) (opening_two (by omega) (by omega))]
      exact same ▸ scan_last (continuation_mem_tail n) rest
    · split
      · have first : n / 4096 % 0x10 + 0xE0 = n / 0x40 / 0x40 + 0xE0 := by omega
        have second := mem_secondOfThree (n := n) (by omega) (by omega) (by omega)
        rw [first, List.cons_append, List.cons_append, List.singleton_append,
          scan_opening (by omega) (opening_three (by omega))]
        refine (scan_continuation (n := n / 0x40) [] second _).trans ?_
        exact same ▸ scan_last (continuation_mem_tail n) rest
      · have first : n / 262144 % 0x08 + 0xF0 = n / 0x40 / 0x40 / 0x40 + 0xF0 := by omega
        have third : n / 4096 % 0x40 + 0x80 = continuation (n / 0x40 / 0x40) := by
          simp only [continuation]
          omega
        have second := mem_secondOfFour (n := n) (by omega) (by omega)
        rw [first, third, List.cons_append, List.cons_append, List.cons_append,
          List.singleton_append, scan_opening (by omega) (opening_four (by omega))]
        refine (scan_continuation (n := n / 0x40 / 0x40) [tail] second _).trans ?_
        refine (scan_continuation (n := n / 0x40) [] (continuation_mem_tail _) _).trans ?_
        exact same ▸ scan_last (continuation_mem_tail n) rest

theorem scan_encode (text : List Char) : scan idle (encode text) = text.map some := by
  induction text with
  | nil => rfl
  | cons c rest inductionHypothesis =>
    rw [encode, List.flatMap_cons, scan_utf8EncodeChar, ← encode, inductionHypothesis,
      List.map_cons]

/-- A text that is written and read is the same text. -/
theorem decode?_encode (text : List Char) : decode? (encode text) = some text := by
  rw [decode?, scan_encode]
  induction text with
  | nil => rfl
  | cons c rest inductionHypothesis =>
    rw [List.map_cons, List.mapM_cons, inductionHypothesis]
    rfl

theorem eq_zero_of_ofNat_eq_zero {n : Nat} (fits : n < 0x100) (zero : 0 = UInt8.ofNat n) :
    n = 0 := by
  have numbers := congrArg UInt8.toNat zero
  rw [UInt8.toNat_ofNat', Nat.mod_eq_of_lt fits] at numbers
  exact numbers.symm

theorem eq_zero_of_zero_mem {c : Char} (membership : 0 ∈ String.utf8EncodeChar c) :
    c = '\x00' := by
  have same : Char.ofNat c.toNat = c := Char.ofNat_toNat c
  unfold String.utf8EncodeChar at membership
  extract_lets n at membership
  change Char.ofNat n = c at same
  split at membership
  · have zero := eq_zero_of_ofNat_eq_zero (by omega) (List.mem_singleton.mp membership)
    rw [← same, zero]
  · exfalso
    split at membership
    · simp only [List.mem_cons, List.not_mem_nil, or_false] at membership
      rcases membership with zero | zero <;>
        exact absurd (eq_zero_of_ofNat_eq_zero (by omega) zero) (by omega)
    · split at membership
      · simp only [List.mem_cons, List.not_mem_nil, or_false] at membership
        rcases membership with zero | zero | zero <;>
          exact absurd (eq_zero_of_ofNat_eq_zero (by omega) zero) (by omega)
      · simp only [List.mem_cons, List.not_mem_nil, or_false] at membership
        rcases membership with zero | zero | zero | zero <;>
          exact absurd (eq_zero_of_ofNat_eq_zero (by omega) zero) (by omega)

theorem zero_not_mem_encode {text : List Char} (noZero : '\x00' ∉ text) : 0 ∉ encode text := by
  intro membership
  rcases List.mem_flatMap.mp membership with ⟨c, present, zero⟩
  exact noZero (eq_zero_of_zero_mem zero ▸ present)

theorem toUTF8_eq_encode (text : String) : text.toUTF8.data.toList = encode text.toList := by
  rw [String.toUTF8_eq_toByteArray, ← String.utf8Encode_toList, List.utf8Encode,
    List.toList_data_toByteArray]
  rfl

end SymbolFootprint.Utf8
