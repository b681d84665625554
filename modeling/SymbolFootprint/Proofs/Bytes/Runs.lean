import Mathlib.Algebra.Ring.Nat
import SymbolFootprint.Bytes

/-!
Runs of bytes that stand at known places of a file, and what reading them gives.

`RunAt bytes place run` says that `run` stands at `place`. Runs of runs stand where their offsets
say (`RunAt.trans`), so a place can be followed from the file down to a field. Reading a run as it
is, as a table of entries, or as a string up to a zero byte gives back what stands there, and so
does reading a number that fits its field (`ByteOrder.littleNumber_littleBytes`).
-/

namespace SymbolFootprint

namespace ByteOrder

theorem littleNumber_littleBytes (width n : Nat) :
    littleNumber (littleBytes width n) = n % 256 ^ width := by
  induction width generalizing n with
  | zero => simp [littleBytes, littleNumber, Nat.mod_one]
  | succ width inductionHypothesis =>
    have byte : (UInt8.ofNat (n % 256)).toNat = n % 256 := by
      simp [UInt8.toNat_ofNat']
    rw [littleBytes, littleNumber, inductionHypothesis, byte, pow_succ', Nat.mod_mul]

end ByteOrder

/-- The bytes have the run at the place. -/
def RunAt (bytes : List UInt8) (place : Nat) (run : List UInt8) : Prop :=
  ∃ before after, bytes = before ++ run ++ after ∧ before.length = place

namespace RunAt

theorem refl (bytes : List UInt8) : RunAt bytes 0 bytes :=
  ⟨[], [], by simp, rfl⟩

theorem trans {bytes outer inner : List UInt8} {place offset : Nat}
    (stands : RunAt bytes place outer) (within : RunAt outer offset inner) :
    RunAt bytes (place + offset) inner := by
  rcases stands with ⟨before, after, rfl, rfl⟩
  rcases within with ⟨front, back, rfl, rfl⟩
  exact ⟨before ++ front, back ++ after, by simp only [List.append_assoc], List.length_append⟩

theorem append_left (before run : List UInt8) : RunAt (before ++ run) before.length run :=
  ⟨before, [], by simp, rfl⟩

theorem append_right {bytes run : List UInt8} {place : Nat} (stands : RunAt bytes place run)
    (more : List UInt8) : RunAt (bytes ++ more) place run := by
  rcases stands with ⟨before, after, rfl, rfl⟩
  exact ⟨before, after ++ more, by simp only [List.append_assoc], rfl⟩

theorem start {bytes first second : List UInt8} {place : Nat}
    (stands : RunAt bytes place (first ++ second)) : RunAt bytes place first := by
  simpa using stands.trans ((RunAt.refl first).append_right second)

theorem stop_le {bytes run : List UInt8} {place : Nat} (stands : RunAt bytes place run) :
    place + run.length ≤ bytes.length := by
  rcases stands with ⟨before, after, rfl, rfl⟩
  simp only [List.length_append]
  omega

theorem take_drop {bytes run : List UInt8} {place : Nat} (stands : RunAt bytes place run) :
    (bytes.drop place).take run.length = run := by
  rcases stands with ⟨before, after, rfl, rfl⟩
  rw [List.append_assoc, List.drop_left, List.take_left]

theorem head {bytes rest : List UInt8} {place : Nat} {byte : UInt8}
    (stands : RunAt bytes place (byte :: rest)) : bytes[place]? = some byte := by
  rcases stands with ⟨before, after, rfl, rfl⟩
  simp

theorem tail {bytes rest : List UInt8} {place : Nat} {byte : UInt8}
    (stands : RunAt bytes place (byte :: rest)) : RunAt bytes (place + 1) rest :=
  stands.trans (append_left [byte] rest)

end RunAt

section Reading

variable {file : ByteArray} {place : Nat}

theorem size_eq_length (file : ByteArray) : file.size = file.data.toList.length :=
  Array.length_toList.symm

theorem getElem?_eq_getElem?_toList (file : ByteArray) (place : Nat) :
    file[place]? = file.data.toList[place]? := by
  rw [Array.getElem?_toList]
  rfl

theorem window?_of_runAt {run : List UInt8} (stands : RunAt file.data.toList place run) :
    window? file place run.length = some run := by
  rw [window?_eq, if_pos stands.stop_le, stands.take_drop]

theorem chunks_flatten {width : Nat} {entries : List (List UInt8)}
    (widths : ∀ entry ∈ entries, entry.length = width) :
    chunks width entries.length entries.flatten = entries := by
  induction entries with
  | nil => rfl
  | cons entry rest inductionHypothesis =>
    have own : entry.length = width := widths entry (List.mem_cons_self ..)
    have others := inductionHypothesis fun other inside =>
      widths other (List.mem_cons_of_mem _ inside)
    rw [List.length_cons, List.flatten_cons, chunks, ← own, List.take_left, List.drop_left, own,
      others]

theorem length_flatten_of_widths {width : Nat} {entries : List (List UInt8)}
    (widths : ∀ entry ∈ entries, entry.length = width) :
    entries.flatten.length = entries.length * width := by
  induction entries with
  | nil => simp
  | cons entry rest inductionHypothesis =>
    have own : entry.length = width := widths entry (List.mem_cons_self ..)
    have others := inductionHypothesis fun other inside =>
      widths other (List.mem_cons_of_mem _ inside)
    rw [List.flatten_cons, List.length_append, own, others, List.length_cons, Nat.succ_mul,
      Nat.add_comm]

/-- A table of entries of one width is read entry by entry. -/
theorem table?_of_runAt {width : Nat} {entries : List (List UInt8)}
    (widths : ∀ entry ∈ entries, entry.length = width)
    (stands : RunAt file.data.toList place entries.flatten) :
    table? file place width entries.length = some entries := by
  rw [table?, ← length_flatten_of_widths widths, window?_of_runAt stands, Option.map_some,
    chunks_flatten widths]

theorem zeroTerminated?_of_runAt {string : List UInt8} {count : Nat} (noZero : 0 ∉ string)
    (stands : RunAt file.data.toList place (string ++ [0])) (enough : string.length < count) :
    zeroTerminated? file count place = some string := by
  induction string generalizing place count with
  | nil =>
    obtain ⟨count, rfl⟩ := Nat.exists_eq_succ_of_ne_zero (Nat.ne_of_gt enough)
    rw [zeroTerminated?, getElem?_eq_getElem?_toList, stands.head]
    rfl
  | cons byte rest inductionHypothesis =>
    obtain ⟨count, rfl⟩ := Nat.exists_eq_succ_of_ne_zero (Nat.ne_of_gt (Nat.zero_lt_of_lt enough))
    simp only [List.mem_cons, not_or] at noZero
    have later := inductionHypothesis noZero.2 stands.tail (Nat.lt_of_succ_lt_succ enough)
    rw [zeroTerminated?, getElem?_eq_getElem?_toList, stands.head]
    simp only [if_neg (Ne.symm noZero.1), later, Option.map_some]

theorem string?_of_runAt {table string : List UInt8} {offset : Nat} (noZero : 0 ∉ string)
    (stands : RunAt file.data.toList place table) (within : RunAt table offset (string ++ [0])) :
    StringArea.string? file ⟨place, place + table.length⟩ offset = some string := by
  have inTable := within.stop_le
  have inFile := stands.stop_le
  rw [List.length_append, List.length_singleton] at inTable
  rw [← size_eq_length] at inFile
  rw [StringArea.string?, if_pos ⟨by dsimp only; omega, inFile⟩]
  exact zeroTerminated?_of_runAt noZero (stands.trans within) (by dsimp only; omega)

end Reading

end SymbolFootprint
