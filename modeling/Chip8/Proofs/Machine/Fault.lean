import Chip8.Proofs.Instruction.Encoding
import Chip8.Proofs.Machine.Effect

namespace Chip8

namespace Opcode

theorem toNat_ofBytes (high low : UInt8) :
    (ofBytes high low).toNat = high.toNat * 256 + low.toNat := by
  have hhigh := high.toNat_lt
  have hlow := low.toNat_lt
  rw [ofBytes, UInt16.toNat_ofNat']
  omega

end Opcode

namespace Machine

variable {m : Machine} {keys : Keypad}

theorem toNat_nextOpcode (m : Machine) :
    m.nextOpcode.toNat =
      (m.memory.read (m.registers.pc.toNat % m.memory.size)).toNat * 256 +
        (m.memory.read ((m.registers.pc.toNat + 1) % m.memory.size)).toNat := by
  rw [nextOpcode, Opcode.toNat_ofBytes, wordAddress, Nat.mod_add_mod]

theorem cycle_of_not_supported (h : ¬ m.nextOpcode.Supported) (keys : Keypad) :
    m.cycle keys =
      (⟨m.registers.pc, m.nextOpcode, .faulted ⟨m.nextOpcode, m.registers.pc⟩⟩, m.advance) := by
  rw [cycle, Instruction.decode_eq_unknown_iff.mpr h]
  rfl

theorem fault?_cycle_of_supported (h : m.nextOpcode.Supported) (keys : Keypad) :
    (m.cycle keys).1.fault? = none := by
  obtain ⟨i, hi, hword⟩ := h
  have houtcome : (m.cycle keys).1.outcome =
      (m.advance.execute keys m.registers.pc (.decode m.nextOpcode)).1 := rfl
  rw [← hword, Instruction.decode_encode hi, outcome_execute] at houtcome
  unfold Cycle.fault?
  rw [houtcome]
  cases i with
  | waitForKey x => cases keys.lowest? <;> rfl
  | unknown word => exact hi.elim
  | _ => rfl

theorem fault?_cycle_iff {fault : Fault} :
    (m.cycle keys).1.fault? = some fault ↔
      ¬ m.nextOpcode.Supported ∧ fault = ⟨m.nextOpcode, m.registers.pc⟩ := by
  constructor
  · intro h
    have hno : ¬ m.nextOpcode.Supported := by
      intro hword
      rw [fault?_cycle_of_supported hword] at h
      exact nomatch h
    rw [cycle_of_not_supported hno] at h
    exact ⟨hno, (Option.some.inj h).symm⟩
  · rintro ⟨hno, rfl⟩
    rw [cycle_of_not_supported hno]
    rfl

end Machine

end Chip8
