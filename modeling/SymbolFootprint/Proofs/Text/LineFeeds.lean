import Mathlib.Tactic.SplitIfs
import SymbolFootprint.Proofs.Text.Split
import SymbolFootprint.Text.Utf8

/-!
Line feeds in bytes that may not be UTF-8.

The byte of a line feed continues no character and starts no longer one. So it ends whatever is
pending, as one fault, and stands for itself (`advance_feed`); and no other bytes are read as a line
feed (`feed_not_mem_advance`), because no encoding is longer than it needs to be. Both depend on
what can be pending, which `Regular` states and every byte keeps (`Regular.advance`). Hence the text
of some bytes has the lines that the bytes have, each decoded on its own (`split_decodeLossy`).
-/

namespace SymbolFootprint.Utf8

def Continues (range : Nat × Nat) : Prop :=
  tail.1 ≤ range.1 ∧ range.2 ≤ tail.2

instance (range : Nat × Nat) : Decidable (Continues range) :=
  inferInstanceAs (Decidable (_ ∧ _))

/-- What can be pending. Some bit is set, or the next byte sets one before the last byte comes. -/
inductive Regular : Pending → Prop
  | idle : Regular idle
  | begun {bits ranges} : 0 < bits → (∀ range ∈ ranges, Continues range) → Regular ⟨bits, ranges⟩
  | empty {range next more} : tail.1 < range.1 →
      (∀ other ∈ range :: next :: more, Continues other) → Regular ⟨0, range :: next :: more⟩

theorem Regular.continues {pending : Pending} (regular : Regular pending) :
    ∀ range ∈ pending.ranges, Continues range := by
  cases regular with
  | idle => simp [Utf8.idle]
  | begun _ continues => exact continues
  | empty _ continues => exact continues

/-- What a byte can settle where a character starts, and what it can leave pending. -/
inductive Opened (byte : Nat) : List (Option Char) × Pending → Prop
  | character : Opened byte ([some (Char.ofNat byte)], Utf8.idle)
  | fault : Opened byte ([none], Utf8.idle)
  | more {pending} : Regular pending → Opened byte ([], pending)

theorem opened_opening (byte : Nat) : Opened byte (opening byte) := by
  unfold opening
  refine iteInduction (fun _ => .character) fun _ => ?_
  refine iteInduction (fun _ => .fault) fun _ => ?_
  refine iteInduction (fun _ => .more (.begun (by omega) (by decide))) fun _ => ?_
  refine iteInduction (fun _ => .more (.empty (by decide) (by decide))) fun _ => ?_
  refine iteInduction (fun _ => .more (.begun (by decide) (by decide))) fun _ => ?_
  refine iteInduction (fun _ => .more (.begun (by omega) (by decide))) fun _ => ?_
  refine iteInduction (fun _ => .more (.empty (by decide) (by decide))) fun _ => ?_
  refine iteInduction (fun _ => .more (.begun (by omega) (by decide))) fun _ => ?_
  exact iteInduction (fun _ => .more (.begun (by decide) (by decide))) fun _ => .fault

theorem regular_opening (byte : Nat) : Regular (opening byte).2 := by
  have opened := opened_opening byte
  generalize opening byte = result at opened
  cases opened with
  | character => exact .idle
  | fault => exact .idle
  | more regular => exact regular

/-- Bits that are set stay set, and a byte beyond the least one that continues a character sets a
bit. -/
theorem Regular.bits_pos {bits byte : Nat} {range : Nat × Nat} {more : List (Nat × Nat)}
    (regular : Regular ⟨bits, range :: more⟩) (inRange : range.1 ≤ byte ∧ byte ≤ range.2) :
    0 < bits * 0x40 + byte % 0x40 := by
  have continues : Continues range := regular.continues range (List.mem_cons_self ..)
  unfold Continues tail at continues
  cases regular with
  | begun positive _ => omega
  | empty beyond _ =>
    unfold tail at beyond
    omega

theorem Regular.advance {pending : Pending} (regular : Regular pending) (byte : Nat) :
    Regular (advance pending byte).2 := by
  obtain ⟨bits, ranges⟩ := pending
  unfold Utf8.advance
  cases ranges with
  | nil => exact regular_opening byte
  | cons range more =>
    have continues := regular.continues
    dsimp only
    split_ifs with inRange last
    · exact .idle
    · exact .begun (regular.bits_pos inRange) fun other later =>
        continues other (List.mem_cons_of_mem _ later)
    · exact regular_opening byte

theorem advance_feed {pending : Pending} (regular : Regular pending) :
    advance pending 0x0A = (cutOff pending ++ [some '\n'], idle) := by
  obtain ⟨bits, ranges⟩ := pending
  cases ranges with
  | nil => rfl
  | cons range more =>
    have continues : Continues range := regular.continues range (List.mem_cons_self ..)
    have outside : ¬(range.1 ≤ 0x0A ∧ 0x0A ≤ range.2) := by
      unfold Continues tail at continues
      omega
    simp only [advance, if_neg outside]
    rfl

theorem eq_of_ofNat_eq_feed {n : Nat} (feed : Char.ofNat n = '\n') : n = 0x0A := by
  by_cases valid : n.isValidChar
  · rw [Char.ofNat, dif_pos valid] at feed
    exact congrArg Char.toNat feed
  · rw [Char.ofNat, dif_neg valid] at feed
    exact absurd feed (by decide)

theorem feed_not_mem_opening {byte : Nat} (noFeed : byte ≠ 0x0A) :
    some '\n' ∉ (opening byte).1 := by
  have opened := opened_opening byte
  generalize opening byte = result at opened
  intro membership
  cases opened with
  | character =>
    have feed : '\n' = Char.ofNat byte := Option.some.inj (List.mem_singleton.mp membership)
    exact noFeed (eq_of_ofNat_eq_feed feed.symm)
  | fault => cases List.mem_singleton.mp membership
  | more _ => cases membership

theorem feed_not_mem_advance {pending : Pending} (regular : Regular pending) {byte : Nat}
    (noFeed : byte ≠ 0x0A) : some '\n' ∉ (advance pending byte).1 := by
  obtain ⟨bits, ranges⟩ := pending
  unfold advance
  cases ranges with
  | nil => exact feed_not_mem_opening noFeed
  | cons range more =>
    dsimp only
    split_ifs with inRange last
    · intro membership
      have feed := Option.some.inj (List.mem_singleton.mp membership)
      have number := eq_of_ofNat_eq_feed feed.symm
      have none : more = [] := List.isEmpty_iff.mp last
      cases regular with
      | begun positive _ => omega
      | empty _ _ => cases none
    · simp
    · simpa using feed_not_mem_opening noFeed

/-- What stands before a line feed and what stands behind it are read on their own. -/
theorem scan_append_feed {pending : Pending} (regular : Regular pending)
    (front back : List UInt8) :
    scan pending (front ++ 0x0A :: back) = scan pending front ++ some '\n' :: scan idle back := by
  induction front generalizing pending with
  | nil =>
    have settled : advance pending (0x0A : UInt8).toNat = (cutOff pending ++ [some '\n'], idle) :=
      advance_feed regular
    simp only [List.nil_append, scan, settled, List.append_assoc, List.singleton_append]
  | cons byte front inductionHypothesis =>
    simp only [List.cons_append, scan, inductionHypothesis (regular.advance byte.toNat),
      List.append_assoc]

theorem feed_not_mem_scan {pending : Pending} (regular : Regular pending) {bytes : List UInt8}
    (noFeed : 0x0A ∉ bytes) : some '\n' ∉ scan pending bytes := by
  induction bytes generalizing pending with
  | nil =>
    unfold scan cutOff
    split <;> simp
  | cons byte rest inductionHypothesis =>
    simp only [List.mem_cons, not_or] at noFeed
    have other : byte.toNat ≠ 0x0A := fun number => noFeed.1 (UInt8.toNat.inj number.symm)
    simp only [scan, List.mem_append, not_or]
    exact ⟨feed_not_mem_advance regular other,
      inductionHypothesis (regular.advance byte.toNat) noFeed.2⟩

theorem decodeLossy_append_feed (front back : List UInt8) :
    decodeLossy (front ++ 0x0A :: back) = decodeLossy front ++ '\n' :: decodeLossy back := by
  simp only [decodeLossy, scan_append_feed .idle, List.map_append, List.map_cons, Option.getD_some]

theorem feed_not_mem_decodeLossy {bytes : List UInt8} (noFeed : 0x0A ∉ bytes) :
    '\n' ∉ decodeLossy bytes := by
  intro membership
  obtain ⟨settled, inside, same⟩ := List.mem_map.mp membership
  cases settled with
  | none => exact absurd same (by decide)
  | some c =>
    have feed : c = '\n' := same
    exact feed_not_mem_scan .idle noFeed (feed ▸ inside)

/-- The lines of the text are the lines of the bytes, each decoded on its own. -/
theorem split_decodeLossy (bytes : List UInt8) :
    Text.split '\n' (decodeLossy bytes) = (bytes.splitOn 0x0A).map decodeLossy := by
  by_cases present : 0x0A ∈ bytes
  · obtain ⟨front, back, rfl⟩ := List.append_of_mem present
    rw [decodeLossy_append_feed, Text.split_append_cons, split_decodeLossy front,
      split_decodeLossy back, List.splitOn_append_cons_self, List.map_append]
  · rw [Text.split_eq_splitOn, List.splitOn_eq_singleton (feed_not_mem_decodeLossy present),
      List.splitOn_eq_singleton present, List.map_singleton]
termination_by bytes.length

end SymbolFootprint.Utf8
