/-!
Reading UTF-8.

Bytes are read one at a time. What has been read of a character that is not complete is kept in a
`Pending` value; a byte that cannot continue it ends the attempt, and the attempt counts as one
fault. So every longest run of bytes that starts a character and does not finish it is one fault,
and a fault never swallows the byte after it.
-/

namespace SymbolFootprint.Utf8

/-- A character that has been read in part: the bits so far, and the ranges in which the bytes still
to come must lie. No range is left between characters. -/
structure Pending where
  bits : Nat
  ranges : List (Nat × Nat)
deriving DecidableEq

/-- Nothing has been read of the next character. -/
def idle : Pending := ⟨0, []⟩

/-- The range of a byte that continues a character. -/
def tail : Nat × Nat := (0x80, 0xBF)

/-- What a byte means where a character starts: a character, a fault or the start of more. The
ranges of the second byte leave out encodings that are too long, surrogates, and values that are too
large. -/
def opening (byte : Nat) : List (Option Char) × Pending :=
  if byte < 0x80 then ([some (Char.ofNat byte)], idle)
  else if byte < 0xC2 then ([none], idle)
  else if byte < 0xE0 then ([], ⟨byte - 0xC0, [tail]⟩)
  else if byte = 0xE0 then ([], ⟨0, [(0xA0, 0xBF), tail]⟩)
  else if byte = 0xED then ([], ⟨0xD, [(0x80, 0x9F), tail]⟩)
  else if byte < 0xF0 then ([], ⟨byte - 0xE0, [tail, tail]⟩)
  else if byte = 0xF0 then ([], ⟨0, [(0x90, 0xBF), tail, tail]⟩)
  else if byte < 0xF4 then ([], ⟨byte - 0xF0, [tail, tail, tail]⟩)
  else if byte = 0xF4 then ([], ⟨4, [(0x80, 0x8F), tail, tail]⟩)
  else ([none], idle)

/-- The characters and faults that a byte settles, and what is pending after it. -/
def advance (pending : Pending) (byte : Nat) : List (Option Char) × Pending :=
  match pending.ranges with
  | [] => opening byte
  | (low, high) :: more =>
    if low ≤ byte ∧ byte ≤ high then
      let bits := pending.bits * 0x40 + byte % 0x40
      if more.isEmpty then ([some (Char.ofNat bits)], idle) else ([], ⟨bits, more⟩)
    else
      let (settled, next) := opening byte
      (none :: settled, next)

/-- The fault of a character that the end of the text cuts off. -/
def cutOff (pending : Pending) : List (Option Char) :=
  if pending.ranges.isEmpty then [] else [none]

/-- The characters of a text, with `none` for each fault. -/
def scan (pending : Pending) : List UInt8 → List (Option Char)
  | [] => cutOff pending
  | byte :: rest =>
    let (settled, next) := advance pending byte.toNat
    settled ++ scan next rest

def decode? (bytes : List UInt8) : Option (List Char) :=
  (scan idle bytes).mapM id

/-- The characters of a text, with a replacement character for each fault. -/
def decodeLossy (bytes : List UInt8) : List Char :=
  (scan idle bytes).map (·.getD '\uFFFD')

def encode (text : List Char) : List UInt8 :=
  text.flatMap String.utf8EncodeChar

end SymbolFootprint.Utf8
