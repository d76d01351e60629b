import Chip8.Proofs.Machine.Effect

namespace Chip8

-- Whether a skip instruction is taken; none for the other instructions.
def Instruction.skips? (m : Machine) (keys : Keypad) : Instruction → Option Bool
  | .skipIfEqual x nn => some (decide (m.get x = nn))
  | .skipIfNotEqual x nn => some (decide (m.get x ≠ nn))
  | .skipIfSame x y => some (decide (m.get x = m.get y))
  | .skipIfDifferent x y => some (decide (m.get x ≠ m.get y))
  | .skipIfPressed x => some (keys.isDown (Nibble.low (m.get x)))
  | .skipIfReleased x => some (!keys.isDown (Nibble.low (m.get x)))
  | _ => none

namespace Machine

-- Two more bytes on the ring, counted in sixteen bits. Only the last two places
-- of a memory reach the sixteen-bit limit, and on a full memory the limit is the
-- end of the ring.
theorem wrapped_step_eq_iff {pc size : Nat} (hpos : 0 < size) (hle : size ≤ 0x10000)
    (hpc : pc < 0x10000) :
    ((pc + 2) % size + 2) % 0x10000 % size = (pc + 4) % size ↔
      ¬ (size = 0xFFFF ∧ pc = 0xFFFC) := by
  have hlt : (pc + 2) % size < size := Nat.mod_lt _ hpos
  have hfold : ((pc + 2) % size + 2) % size = (pc + 4) % size := Nat.mod_add_mod (pc + 2) size 2
  by_cases hlast : size = 0xFFFF
  · subst hlast
    omega
  by_cases hfull : size = 0x10000
  · subst hfull
    omega
  rw [Nat.mod_eq_of_lt (show (pc + 2) % size + 2 < 0x10000 by omega)]
  exact iff_of_true hfold fun h => hlast h.1

section Skips

variable {m : Machine} {keys : Keypad} {taken : Bool}

theorem execute_of_skips? {i : Instruction} (h : i.skips? m keys = some taken)
    (address : UInt16) : m.execute keys address i = (.done, m.skipIf taken) := by
  cases i with
  | skipIfEqual x nn | skipIfNotEqual x nn | skipIfSame x y | skipIfDifferent x y
  | skipIfPressed x | skipIfReleased x =>
    obtain rfl := Option.some.inj h
    simp [execute, bne, BEq.beq]
  | _ => exact absurd h nofun

theorem cycle_of_skips? (h : (m.cycle keys).1.instruction.skips? m keys = some taken) :
    (m.cycle keys).2 = m.advance.skipIf taken :=
  congrArg Prod.snd (execute_of_skips? (m := m.advance) h m.registers.pc)

theorem wordAddress_skipIf_advance (hpos : 0 < m.memory.size) (hle : m.memory.size ≤ 0x10000) :
    (m.advance.skipIf taken).wordAddress =
      if taken then ((m.registers.pc.toNat + 2) % m.memory.size + 2) % 0x10000 % m.memory.size
      else (m.registers.pc.toNat + 2) % m.memory.size := by
  have hpc := toNat_pc_advance hpos hle
  cases taken with
  | false =>
    show m.advance.registers.pc.toNat % m.memory.size = _
    rw [hpc]
    exact Nat.mod_mod _ _
  | true =>
    show (m.advance.registers.pc + 2).toNat % m.memory.size = _
    rw [UInt16.toNat_add, hpc]
    rfl

end Skips

-- A skip lands one word further on the ring than the word behind it exactly if
-- its condition holds, everywhere but at one place.
theorem skip_lands_on_ring_iff {m : Machine} {keys : Keypad} {taken : Bool}
    (hpos : 0 < m.memory.size) (hle : m.memory.size ≤ 0x10000)
    (hskip : (m.cycle keys).1.instruction.skips? m keys = some taken) :
    (m.cycle keys).2.wordAddress =
        (m.registers.pc.toNat + if taken then 4 else 2) % m.memory.size ↔
      ¬ (taken = true ∧ m.memory.size = 0xFFFF ∧ m.registers.pc = 0xFFFC) := by
  rw [cycle_of_skips? hskip, wordAddress_skipIf_advance hpos hle]
  cases taken with
  | false => exact iff_of_true rfl fun h => Bool.noConfusion h.1
  | true =>
    have hcount := wrapped_step_eq_iff hpos hle m.registers.pc.toNat_lt
    have hpc : m.registers.pc = 0xFFFC ↔ m.registers.pc.toNat = 0xFFFC := UInt16.toNat_inj.symm
    rw [hpc, and_iff_right rfl]
    exact hcount

-- A skip in three bytes of memory, from a counter that lies past their end. The
-- word of the skip wraps around, and so does the word that it skips.
def skipAround : Machine :=
  { ofConfig { memorySize := 3 } ⟨Vector.replicate 8 0, 0⟩ with
    memory := ⟨#[0x00, 0xFF, 0x30]⟩
    registers := .atAddress 5 }

theorem skip_lands_on_ring_around :
    (skipAround.cycle .released).1.instruction = .skipIfEqual 0 0 ∧
      (skipAround.cycle .released).2.wordAddress = (5 + 4) % 3 := by
  have hskip : (skipAround.cycle .released).1.instruction.skips? skipAround .released =
      some true := by decide
  exact ⟨by decide, (skip_lands_on_ring_iff (by decide) (by decide) hskip).mpr (by decide)⟩

-- The one place: a memory one byte short of full, and a skip whose next word is
-- the byte at its end and the byte at zero.
def skipAtWrap : Machine :=
  { ofConfig { memorySize := 0xFFFF, programAddress := 0xFFFC } ⟨Vector.replicate 8 0, 0⟩ with
    memory := (Memory.blank 0xFFFF).set 0xFFFC 0x30 }

theorem size_skipAtWrap : skipAtWrap.memory.size = 0xFFFF := by
  show ((Memory.blank 0xFFFF).set 0xFFFC 0x30).size = 0xFFFF
  rw [Memory.size_set, Memory.size_blank]

theorem instruction_skipAtWrap :
    (skipAtWrap.cycle .released).1.instruction = .skipIfEqual 0 0 := by
  have hhigh : skipAtWrap.memory.read 0xFFFC = 0x30 := by
    show ((Memory.blank 0xFFFF).set 0xFFFC 0x30).read 0xFFFC = 0x30
    rw [Memory.read_set, Memory.size_blank]
    rfl
  have hlow : skipAtWrap.memory.read 0xFFFD = 0 := by
    show ((Memory.blank 0xFFFF).set 0xFFFC 0x30).read 0xFFFD = 0
    rw [Memory.read_set, if_neg (by decide), Memory.read_blank]
  have haddress : skipAtWrap.wordAddress = 0xFFFC := by
    have hpc : skipAtWrap.registers.pc.toNat = 0xFFFC := by decide
    rw [wordAddress, size_skipAtWrap, hpc]
  rw [instruction_cycle, nextOpcode, haddress, size_skipAtWrap, hhigh, hlow]
  decide

-- V0 is zero, so 3000 skips; it lands at address zero and not at one.
theorem skip_misses_ring_at_wrap :
    (skipAtWrap.cycle .released).1.instruction.skips? skipAtWrap .released = some true ∧
      (skipAtWrap.cycle .released).2.wordAddress = 0 ∧
      (skipAtWrap.registers.pc.toNat + 4) % skipAtWrap.memory.size = 1 := by
  have hskip : (skipAtWrap.cycle .released).1.instruction.skips? skipAtWrap .released =
      some true := by
    rw [instruction_skipAtWrap]
    decide
  have hsize := size_skipAtWrap
  have hpc : skipAtWrap.registers.pc.toNat = 0xFFFC := by decide
  refine ⟨hskip, ?_, by rw [hsize, hpc]⟩
  rw [cycle_of_skips? hskip, wordAddress_skipIf_advance (by omega) (by omega), hsize, hpc]
  decide

end Machine

end Chip8
