import SymbolFootprint.Proofs.Bytes.Runs

/-!
Files of which one begins with the bytes of the other.

What stands in the shorter file stands in the longer one at the same place, and the other way round
as far as the shorter file reaches (`RunAt.of_begins`). So a window that lies in the shorter file
shows the same bytes in both (`window?_of_begins`), and strings of an area that ends in the shorter
file are the same in both (`string?_of_begins`).
-/

namespace SymbolFootprint

/-- What stands in bytes stands in their beginning too, as far as this reaches. -/
theorem RunAt.of_begins {first bytes run : List UInt8} {place : Nat} (begins : first <+: bytes)
    (stands : RunAt bytes place run) (inside : place + run.length ≤ first.length) :
    RunAt first place run := by
  obtain ⟨before, after, rfl, rfl⟩ := stands
  have reaches : before ++ run <+: first := by
    apply List.prefix_of_prefix_length_le (List.prefix_append _ after) begins
    rw [List.length_append]
    exact inside
  obtain ⟨rest, rfl⟩ := reaches
  exact ⟨before, rest, rfl, rfl⟩

theorem window?_eq_none {file : ByteArray} {start length : Nat}
    (short : file.size < start + length) : window? file start length = none :=
  if_neg (Nat.not_le_of_lt short)

section Files

variable {file longer : ByteArray} (begins : file.data.toList <+: longer.data.toList)

include begins

theorem size_le_of_begins : file.size ≤ longer.size := by
  rw [size_eq_length, size_eq_length]
  exact begins.length_le

theorem window?_of_begins {start length : Nat} (inside : start + length ≤ file.size) :
    window? longer start length = window? file start length := by
  have reaches := Nat.le_trans inside (size_le_of_begins begins)
  rw [size_eq_length] at inside reaches
  rw [window?_eq, window?_eq, if_pos inside, if_pos reaches]
  obtain ⟨rest, same⟩ := begins
  rw [← same, List.drop_append_of_le_length (by omega), List.take_append_of_le_length]
  rw [List.length_drop]
  omega

theorem window?_eq_some_of_begins {start length : Nat} {bytes : List UInt8}
    (shown : window? file start length = some bytes) :
    window? longer start length = some bytes := by
  have inside : start + length ≤ file.size := by
    by_contra outside
    rw [window?_eq_none (Nat.lt_of_not_le outside)] at shown
    cases shown
  rw [window?_of_begins begins inside, shown]

theorem table?_eq_some_of_begins {start width count : Nat} {entries : List (List UInt8)}
    (shown : table? file start width count = some entries) :
    table? longer start width count = some entries := by
  obtain ⟨bytes, window, rfl⟩ := Option.map_eq_some_iff.mp shown
  rw [table?, window?_eq_some_of_begins begins window]
  rfl

theorem getElem?_of_begins {place : Nat} (inside : place < file.size) :
    longer[place]? = file[place]? := by
  rw [size_eq_length] at inside
  rw [getElem?_eq_getElem?_toList, getElem?_eq_getElem?_toList]
  obtain ⟨rest, same⟩ := begins
  rw [← same, List.getElem?_append_left inside]

theorem zeroTerminated?_of_begins {count place : Nat} (inside : place + count ≤ file.size) :
    zeroTerminated? longer count place = zeroTerminated? file count place := by
  induction count generalizing place with
  | zero => rfl
  | succ count inductionHypothesis =>
    have later : zeroTerminated? longer count (place + 1) =
        zeroTerminated? file count (place + 1) := inductionHypothesis (by omega)
    rw [zeroTerminated?, zeroTerminated?, getElem?_of_begins begins (by omega), later]

theorem string?_of_begins {area : StringArea} (inside : area.stop ≤ file.size) (offset : Nat) :
    area.string? longer offset = area.string? file offset := by
  have reaches := Nat.le_trans inside (size_le_of_begins begins)
  unfold StringArea.string?
  by_cases within : area.start + offset ≤ area.stop
  · rw [if_pos ⟨within, reaches⟩, if_pos ⟨within, inside⟩]
    exact zeroTerminated?_of_begins begins (by omega)
  · rw [if_neg fun both => within both.1, if_neg fun both => within both.1]

end Files

end SymbolFootprint
