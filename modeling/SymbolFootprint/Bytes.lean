/-!
Runs of bytes in a file, and the numbers that they write.
-/

namespace SymbolFootprint

inductive ByteOrder where
  | little
  | big
deriving DecidableEq

namespace ByteOrder

/-- The number that bytes write, the lowest byte first. -/
def littleNumber : List UInt8 → Nat
  | [] => 0
  | b :: rest => b.toNat + 256 * littleNumber rest

/-- The lowest bytes of a number, the lowest one first. -/
def littleBytes : Nat → Nat → List UInt8
  | 0, _ => []
  | width + 1, n => UInt8.ofNat (n % 256) :: littleBytes width (n / 256)

def number : ByteOrder → List UInt8 → Nat
  | .little, bytes => littleNumber bytes
  | .big, bytes => littleNumber bytes.reverse

@[simp]
theorem length_littleBytes (width n : Nat) : (littleBytes width n).length = width := by
  induction width generalizing n with
  | zero => rfl
  | succ width ih => simp [littleBytes, ih]

end ByteOrder

/-- The bytes at the places from `start` to `start + length`, if the file reaches that far. -/
def window? (file : ByteArray) (start length : Nat) : Option (List UInt8) :=
  if start + length ≤ file.size then some (file.extract start (start + length)).data.toList
  else none

/-- The bytes of a run that make up a field. -/
def field (start length : Nat) (bytes : List UInt8) : List UInt8 :=
  (bytes.drop start).take length

/-- The first `count` runs of `width` bytes. -/
def chunks (width : Nat) : Nat → List UInt8 → List (List UInt8)
  | 0, _ => []
  | count + 1, bytes => bytes.take width :: chunks width count (bytes.drop width)

/-- The entries of a table of `count` entries of `width` bytes, if the file holds all of it. -/
def table? (file : ByteArray) (start width count : Nat) : Option (List (List UInt8)) :=
  (window? file start (count * width)).map (chunks width count)

/-- A string table: the places of the file from `start` to `stop`. Strings in it end at a zero byte.
-/
structure StringArea where
  start : Nat
  stop : Nat
deriving DecidableEq

/-- The bytes from a place up to the next zero byte, which must be among the given number of bytes.
-/
def zeroTerminated? (file : ByteArray) : Nat → Nat → Option (List UInt8)
  | 0, _ => none
  | count + 1, place =>
    match file[place]? with
    | none => none
    | some byte =>
      if byte = 0 then some [] else (zeroTerminated? file count (place + 1)).map (byte :: ·)

/-- The bytes from an offset of the table up to the next zero byte. The table must lie in the file.
-/
def StringArea.string? (file : ByteArray) (area : StringArea) (offset : Nat) :
    Option (List UInt8) :=
  if area.start + offset ≤ area.stop ∧ area.stop ≤ file.size then
    zeroTerminated? file (area.stop - (area.start + offset)) (area.start + offset)
  else none

theorem window?_eq (file : ByteArray) (start length : Nat) :
    window? file start length =
      if start + length ≤ file.data.toList.length then
        some ((file.data.toList.drop start).take length)
      else none := by
  unfold window?
  have : file.size = file.data.toList.length := Array.length_toList.symm
  rw [this]
  split
  · rw [ByteArray.data_extract, Array.toList_extract, List.extract_eq_take_drop,
      Nat.add_sub_cancel_left]
  · rfl

end SymbolFootprint
