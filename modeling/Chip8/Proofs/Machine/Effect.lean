import Chip8.Machine.Run

namespace Chip8.Machine

theorem get_set (m : Machine) (x : Nibble) (value : UInt8) (r : Nibble) :
    (m.set x value).get r = if r = x then value else m.get r :=
  m.registers.get_set x value r

theorem get_setFlag (m : Machine) (flag : Bool) (r : Nibble) :
    (m.setFlag flag).get r =
      if r = Registers.flagRegister then if flag then 1 else 0 else m.get r :=
  m.registers.get_set Registers.flagRegister (if flag then 1 else 0) r

theorem skipIf_eq (m : Machine) (condition : Bool) :
    m.skipIf condition = { m with registers := (m.skipIf condition).registers } := by
  cases condition <;> rfl

theorem alu_eq (m : Machine) (x y : Nibble) (op : AluOp) :
    m.alu x y op = { m with registers := (m.alu x y op).registers } := by
  unfold alu
  split <;> rfl

theorem addIndex_eq (m : Machine) (x : Nibble) :
    m.addIndex x = { m with registers := (m.addIndex x).registers } := by
  unfold addIndex
  extract_lets
  split <;> rfl

theorem waitForKey_eq (m : Machine) (keys : Keypad) (address : UInt16) (x : Nibble) :
    (m.waitForKey keys address x).2 =
      { m with registers := (m.waitForKey keys address x).2.registers } := by
  unfold waitForKey
  split <;> rfl

theorem moveIndex_eq (m : Machine) :
    m.moveIndex = { m with registers := m.moveIndex.registers } := by
  unfold moveIndex
  split <;> rfl

theorem storeRegisters_eq (m : Machine) (last : Nibble) :
    m.storeRegisters last =
      { m with
        memory := (m.storeRegisters last).memory
        registers := (m.storeRegisters last).registers } := by
  unfold storeRegisters
  induction Nibble.upTo last generalizing m with
  | nil => rfl
  | cons r rest ih => rw [List.foldl_cons, ih, storeRegister, moveIndex_eq]

theorem loadRegisters_eq (m : Machine) (last : Nibble) :
    m.loadRegisters last = { m with registers := (m.loadRegisters last).registers } := by
  unfold loadRegisters
  induction Nibble.upTo last generalizing m with
  | nil => rfl
  | cons r rest ih =>
    rw [List.foldl_cons, ih, loadRegister, moveIndex_eq]
    rfl

-- The effect of an instruction, component by component. The registers are the
-- one component that most instructions write, so they are left as they are.
theorem execute_eq (m : Machine) (keys : Keypad) (address : UInt16) (i : Instruction) :
    (m.execute keys address i).2 =
      { memory := match i with
          | .storeDecimal x => m.memory.write (m.indexAddress 0) (decimalDigits (m.get x))
          | .storeRegisters x => (m.storeRegisters x).memory
          | _ => m.memory
        display := match i with
          | .clearDisplay => m.display.clear
          | .draw x y n => (m.draw x y n).display
          | _ => m.display
        stack := match i with
          | .call _ => m.stack.push m.registers.pc
          | .ret => m.stack.pop.2
          | _ => m.stack
        registers := (m.execute keys address i).2.registers
        delay := match i with
          | .setDelay x => m.delay.set (m.get x).toUInt32
          | _ => m.delay
        clock := m.clock
        sound := match i with
          | .setSound x => m.get x
          | _ => m.sound
        dialect := m.dialect
        fontAddress := m.fontAddress
        random := match i with
          | .random _ _ => m.random.next.2
          | _ => m.random } := by
  cases i with
  | skipIfEqual x nn => exact m.skipIf_eq _
  | skipIfNotEqual x nn => exact m.skipIf_eq _
  | skipIfSame x y => exact m.skipIf_eq _
  | skipIfDifferent x y => exact m.skipIf_eq _
  | skipIfPressed x => exact m.skipIf_eq _
  | skipIfReleased x => exact m.skipIf_eq _
  | alu x y op => exact m.alu_eq x y op
  | addIndex x => exact m.addIndex_eq x
  | waitForKey x => exact m.waitForKey_eq keys address x
  | storeRegisters x => exact m.storeRegisters_eq x
  | loadRegisters x => exact m.loadRegisters_eq x
  | _ => rfl

theorem outcome_execute (m : Machine) (keys : Keypad) (address : UInt16) (i : Instruction) :
    (m.execute keys address i).1 =
      match i with
      | .waitForKey _ => if keys.lowest?.isSome then .done else .waiting
      | .unknown word => .faulted ⟨word, address⟩
      | _ => .done := by
  cases i with
  | waitForKey x =>
    show (m.waitForKey keys address x).1 = _
    unfold waitForKey
    cases keys.lowest? <;> rfl
  | _ => rfl

section Components

variable (m : Machine) (keys : Keypad) (address : UInt16) (i : Instruction)

theorem stack_execute :
    (m.execute keys address i).2.stack = match i with
      | .call _ => m.stack.push m.registers.pc
      | .ret => m.stack.pop.2
      | _ => m.stack := by
  rw [execute_eq]

theorem display_execute :
    (m.execute keys address i).2.display = match i with
      | .clearDisplay => m.display.clear
      | .draw x y n => (m.draw x y n).display
      | _ => m.display := by
  rw [execute_eq]

theorem delay_execute :
    (m.execute keys address i).2.delay = match i with
      | .setDelay x => m.delay.set (m.get x).toUInt32
      | _ => m.delay := by
  rw [execute_eq]

theorem clock_execute : (m.execute keys address i).2.clock = m.clock := by
  rw [execute_eq]

theorem dialect_execute : (m.execute keys address i).2.dialect = m.dialect := by
  rw [execute_eq]

theorem fontAddress_execute : (m.execute keys address i).2.fontAddress = m.fontAddress := by
  rw [execute_eq]

end Components

theorem memorySize_storeRegisters (m : Machine) (last : Nibble) :
    (m.storeRegisters last).memory.size = m.memory.size := by
  unfold storeRegisters
  induction Nibble.upTo last generalizing m with
  | nil => rfl
  | cons r rest ih => rw [List.foldl_cons, ih, storeRegister, moveIndex_eq, Memory.size_set]

theorem memorySize_execute (m : Machine) (keys : Keypad) (address : UInt16) (i : Instruction) :
    (m.execute keys address i).2.memory.size = m.memory.size := by
  rw [execute_eq]
  cases i with
  | storeDecimal x => exact Memory.size_write _ _ _
  | storeRegisters x => exact m.memorySize_storeRegisters x
  | _ => rfl

theorem instruction_cycle (m : Machine) (keys : Keypad) :
    (m.cycle keys).1.instruction = .decode m.nextOpcode :=
  rfl

theorem memorySize_cycle (m : Machine) (keys : Keypad) :
    (m.cycle keys).2.memory.size = m.memory.size :=
  m.advance.memorySize_execute keys m.registers.pc (.decode m.nextOpcode)

theorem memorySize_after (m : Machine) (snapshots : List Keypad) :
    (m.after snapshots).memory.size = m.memory.size := by
  induction snapshots generalizing m with
  | nil => rfl
  | cons keys rest ih => rw [after_cons, ih, memorySize_cycle]

-- Folding the program counter first does not change where the next word is.
theorem pc_advance (m : Machine) :
    m.advance.registers.pc = UInt16.ofNat ((m.registers.pc.toNat + 2) % m.memory.size) := by
  rw [← Nat.mod_add_mod]
  rfl

theorem toNat_pc_advance {m : Machine} (hpos : 0 < m.memory.size)
    (hle : m.memory.size ≤ 0x10000) :
    m.advance.registers.pc.toNat = (m.registers.pc.toNat + 2) % m.memory.size := by
  rw [pc_advance, UInt16.toNat_ofNat']
  exact Nat.mod_eq_of_lt (Nat.lt_of_lt_of_le (Nat.mod_lt _ hpos) hle)

def timed (m : Machine) (delta : Nat) : Machine :=
  { m with delay := m.delay.tick delta, clock := m.clock.tick delta }

theorem tick_of_due {m : Machine} {delta : Nat} (h : m.clock.due delta = true) (keys : Keypad) :
    m.tick keys delta =
      (some ((m.timed delta).cycle keys).1, ((m.timed delta).cycle keys).2) := by
  unfold tick
  rw [h]
  rfl

theorem tick_of_not_due {m : Machine} {delta : Nat} (h : m.clock.due delta = false)
    (keys : Keypad) : m.tick keys delta = (none, m.timed delta) := by
  unfold tick
  rw [h]
  rfl

-- What holds once time has passed, and after a cycle then, holds after a tick.
theorem tick_induction {motive : Machine → Prop} {m : Machine} {keys : Keypad} {delta : Nat}
    (htimed : motive (m.timed delta)) (hcycle : motive ((m.timed delta).cycle keys).2) :
    motive (m.tick keys delta).2 := by
  cases hdue : m.clock.due delta with
  | false =>
    rw [tick_of_not_due hdue]
    exact htimed
  | true =>
    rw [tick_of_due hdue]
    exact hcycle

theorem tick_of_instruction {m : Machine} {keys : Keypad} {delta : Nat} {i : Instruction}
    (h : (m.tick keys delta).1.map Cycle.instruction = some i) :
    (m.tick keys delta).2 = ((m.timed delta).advance.execute keys m.registers.pc i).2 := by
  cases hdue : m.clock.due delta with
  | false =>
    rw [tick_of_not_due hdue] at h
    exact absurd h.symm (Option.some_ne_none i)
  | true =>
    rw [tick_of_due hdue] at h ⊢
    obtain rfl := Option.some.inj h
    rfl

theorem fontAddress_tick (m : Machine) (keys : Keypad) (delta : Nat) :
    (m.tick keys delta).2.fontAddress = m.fontAddress :=
  tick_induction (motive := fun next => next.fontAddress = m.fontAddress) rfl
    ((m.timed delta).advance.fontAddress_execute keys _ _)

theorem memorySize_tick (m : Machine) (keys : Keypad) (delta : Nat) :
    (m.tick keys delta).2.memory.size = m.memory.size :=
  tick_induction (motive := fun next => next.memory.size = m.memory.size) rfl
    ((m.timed delta).memorySize_cycle keys)

end Chip8.Machine
