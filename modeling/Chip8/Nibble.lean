namespace Chip8

abbrev Nibble := Fin 16

namespace Nibble

-- Numerals stand for nibbles.
instance instNeZero : @NeZero Nat Zero.ofOfNat0 16 := ⟨Nat.succ_ne_zero 15⟩

theorem val_lt (n : Nibble) : n.val < 16 := n.isLt

def ofByte? (byte : UInt8) : Option Nibble :=
  if h : byte.toNat < 16 then some ⟨byte.toNat, h⟩ else none

def low (byte : UInt8) : Nibble := ⟨byte.toNat % 16, Nat.mod_lt _ (by decide)⟩

def toByte (n : Nibble) : UInt8 := n.val.toUInt8

def all : List Nibble := List.finRange 16

def upTo (last : Nibble) : List Nibble := all.filter (· ≤ last)

theorem toNat_toByte (n : Nibble) : n.toByte.toNat = n.val := by
  have := n.isLt
  simp only [toByte, Nat.toUInt8, UInt8.toNat_ofNat']
  omega

theorem low_toByte (n : Nibble) : low n.toByte = n := by
  apply Fin.ext
  simp only [low, toNat_toByte]
  exact Nat.mod_eq_of_lt n.isLt

theorem mem_all (n : Nibble) : n ∈ all := List.mem_finRange n

theorem mem_upTo {n last : Nibble} : n ∈ upTo last ↔ n ≤ last := by
  simp [upTo, mem_all]

theorem upTo_eq_take (last : Nibble) : upTo last = all.take (last.val + 1) := by
  revert last
  decide

theorem take_all_succ (r : Nibble) : all.take (r.val + 1) = all.take r.val ++ [r] := by
  revert r
  decide

theorem map_val_upTo (last : Nibble) : (upTo last).map Fin.val = List.range (last.val + 1) := by
  revert last
  decide

end Nibble

end Chip8
