import Chip8.Proofs.Machine.Arithmetic
import Chip8.Proofs.Machine.Keys
import Chip8.Proofs.Machine.Skip
import Chip8.Proofs.Machine.Sprite
import Chip8.Proofs.Machine.Timekeeping
import Chip8.Proofs.Machine.Transfer

namespace Chip8

namespace Instruction

def Stores (m : Machine) (i : Instruction) (a : Nat) : Prop :=
  match i with
  | .storeDecimal _ => m.indexAddress 0 ≤ a ∧ a < m.indexAddress 3
  | .storeRegisters x => ∃ r ≤ x, a = m.target r
  | _ => False

def Names (i : Instruction) (r : Nibble) : Prop :=
  match i with
  | .load x _ | .add x _ | .alu x _ _ | .random x _ | .readDelay x | .waitForKey x => r = x
  | .loadRegisters x => r ≤ x
  | _ => False

def Flags (d : Dialect) (i : Instruction) : Prop :=
  match i with
  | .alu _ _ op => op.carries = true ∨ op.clearsFlag d = true
  | .draw _ _ _ => True
  | .addIndex _ => d.indexSumSetsFlag = true
  | _ => False

def SetsIndex (d : Dialect) (i : Instruction) : Prop :=
  match i with
  | .loadIndex _ | .addIndex _ | .loadGlyph _ => True
  | .storeRegisters _ | .loadRegisters _ => d.transferMovesIndex = true
  | _ => False

-- The instruction takes the program counter elsewhere than to the next word.
def Departs (m : Machine) (keys : Keypad) (i : Instruction) : Prop :=
  i.skips? m keys = some true ∨
    match i with
    | .ret | .jump _ | .call _ | .jumpOffset _ _ => True
    | .waitForKey _ => ∀ key, keys.isDown key = false
    | _ => False

end Instruction

namespace Machine

-- The second machine is the first one after a cycle of the instruction, which
-- has changed nothing outside its footprint.
structure KeepsToFootprint (m : Machine) (keys : Keypad) (i : Instruction) (next : Machine) :
    Prop where
  memory : ∀ a, ¬ i.Stores m a → next.memory.read a = m.memory.read a
  stack : i ≠ .ret → (∀ nnn, i ≠ .call nnn) → next.stack = m.stack
  display : i ≠ .clearDisplay → (∀ x y n, i ≠ .draw x y n) → next.display = m.display
  delay : (∀ x, i ≠ .setDelay x) → next.delay = m.delay
  sound : (∀ x, i ≠ .setSound x) → next.sound = m.sound
  random : (∀ x nn, i ≠ .random x nn) → next.random = m.random
  index : ¬ i.SetsIndex m.dialect → next.registers.i = m.registers.i
  register : ∀ r ≠ Registers.flagRegister, ¬ i.Names r → next.get r = m.get r
  flag : ¬ i.Names Registers.flagRegister → ¬ i.Flags m.dialect →
    next.get Registers.flagRegister = m.get Registers.flagRegister
  flag_addIndex : ∀ x, i = .addIndex x →
    next.get Registers.flagRegister = m.get Registers.flagRegister ∨
      next.get Registers.flagRegister = 1
  counter : ¬ i.Departs m keys →
    next.registers.pc = UInt16.ofNat ((m.registers.pc.toNat + 2) % m.memory.size)
  counter_toNat : 0 < m.memory.size → m.memory.size ≤ 0x10000 → ¬ i.Departs m keys →
    next.registers.pc.toNat = (m.registers.pc.toNat + 2) % m.memory.size
  -- the parts that lie in no footprint
  memorySize : next.memory.size = m.memory.size
  delayTime : next.delay.SameTime m.delay
  clock : next.clock = m.clock
  dialect : next.dialect = m.dialect
  fontAddress : next.fontAddress = m.fontAddress

section Execution

variable {m : Machine} {keys : Keypad} {address : UInt16} {i : Instruction}

theorem read_execute_of_not_stores {a : Nat} (h : ¬ i.Stores m a) :
    (m.execute keys address i).2.memory.read a = m.memory.read a := by
  rw [execute_eq]
  cases i with
  | storeDecimal x =>
    apply Memory.read_write_outside
    have hlength : (decimalDigits (m.get x)).length = 3 := rfl
    simp only [Instruction.Stores, indexAddress] at h ⊢
    omega
  | storeRegisters x => exact read_storeRegisters_other fun r hr ha => h ⟨r, hr, ha⟩
  | _ => rfl

theorem stack_execute_of_ne (hret : i ≠ .ret) (hcall : ∀ nnn, i ≠ .call nnn) :
    (m.execute keys address i).2.stack = m.stack := by
  rw [stack_execute]
  cases i with
  | ret => exact absurd rfl hret
  | call nnn => exact absurd rfl (hcall nnn)
  | _ => rfl

theorem display_execute_of_ne (hclear : i ≠ .clearDisplay) (hdraw : ∀ x y n, i ≠ .draw x y n) :
    (m.execute keys address i).2.display = m.display := by
  rw [display_execute]
  cases i with
  | clearDisplay => exact absurd rfl hclear
  | draw x y n => exact absurd rfl (hdraw x y n)
  | _ => rfl

theorem delay_execute_of_ne (h : ∀ x, i ≠ .setDelay x) :
    (m.execute keys address i).2.delay = m.delay := by
  rw [delay_execute]
  cases i with
  | setDelay x => exact absurd rfl (h x)
  | _ => rfl

theorem sound_execute_of_ne (h : ∀ x, i ≠ .setSound x) :
    (m.execute keys address i).2.sound = m.sound := by
  rw [execute_eq]
  cases i with
  | setSound x => exact absurd rfl (h x)
  | _ => rfl

theorem random_execute_of_ne (h : ∀ x nn, i ≠ .random x nn) :
    (m.execute keys address i).2.random = m.random := by
  rw [execute_eq]
  cases i with
  | random x nn => exact absurd rfl (h x nn)
  | _ => rfl

theorem sameTime_delay_execute : (m.execute keys address i).2.delay.SameTime m.delay := by
  rw [delay_execute]
  cases i with
  | setDelay x => exact Timer.sameTime_set _ _
  | _ => exact Timer.SameTime.refl _

theorem registers_skipIf (m : Machine) (taken : Bool) :
    (m.skipIf taken).get = m.get ∧ (m.skipIf taken).registers.i = m.registers.i := by
  cases taken <;> exact ⟨rfl, rfl⟩

theorem registers_waitForKey (m : Machine) (keys : Keypad) (address : UInt16) (x : Nibble) :
    (∀ r ≠ x, (m.waitForKey keys address x).2.get r = m.get r) ∧
      (m.waitForKey keys address x).2.registers.i = m.registers.i := by
  unfold waitForKey
  split
  · exact ⟨fun r hr => (m.get_set x _ r).trans (if_neg hr), rfl⟩
  · exact ⟨fun r hr => rfl, rfl⟩

-- A sum inside the address space leaves VF as it was.
theorem get_addIndex (m : Machine) (x r : Nibble) :
    (m.addIndex x).get r =
      if r = Registers.flagRegister ∧ m.dialect.indexSumSetsFlag = true ∧
          0xFFF < m.registers.i.toNat + (m.get x).toNat then 1
      else m.get r := by
  unfold addIndex
  split
  · rename_i h
    simp only [get_setFlag, h, and_self, and_true, if_true]
    rfl
  · rename_i h
    simp only [h, and_false, if_false]
    rfl

theorem pc_addIndex (m : Machine) (x : Nibble) :
    (m.addIndex x).registers.pc = m.registers.pc := by
  unfold addIndex
  extract_lets
  split <;> rfl

theorem get_execute_of_not_names {r : Nibble} (hnames : ¬ i.Names r)
    (hflag : r = Registers.flagRegister → ¬ i.Flags m.dialect) :
    (m.execute keys address i).2.get r = m.get r := by
  cases i with
  | skipIfEqual x nn | skipIfNotEqual x nn | skipIfSame x y | skipIfDifferent x y
  | skipIfPressed x | skipIfReleased x => exact congrFun (m.registers_skipIf _).1 r
  | load x nn => exact (m.get_set x _ r).trans (if_neg hnames)
  | add x nn => exact (m.get_set x _ r).trans (if_neg hnames)
  | random x nn => exact (get_set _ x _ r).trans (if_neg hnames)
  | readDelay x => exact (m.get_set x _ r).trans (if_neg hnames)
  | alu x y op =>
    have halu := m.computesAlu x y op
    by_cases hr : r = Registers.flagRegister
    · subst hr
      have hquiet := not_or.mp (hflag rfl)
      rw [Bool.not_eq_true, Bool.not_eq_true] at hquiet
      have hkept := (halu.combined hquiet.1 (Ne.symm hnames)).2
      rwa [hquiet.2] at hkept
    · exact halu.get_eq r hnames hr
  | draw x y n =>
    have hr : r ≠ Registers.flagRegister := fun h => hflag h trivial
    exact (m.get_draw x y n r).trans (if_neg hr)
  | waitForKey x => exact (m.registers_waitForKey keys address x).1 r hnames
  | addIndex x => exact (m.get_addIndex x r).trans (if_neg fun h => hflag h.1 h.2.1)
  | storeRegisters x =>
    show (m.storeRegisters x).registers.get r = m.get r
    rw [registers_storeRegisters]
    rfl
  | loadRegisters x => exact (get_loadRegisters r).trans (if_neg hnames)
  | _ => rfl

theorem index_execute_of_not_setsIndex (h : ¬ i.SetsIndex m.dialect) :
    (m.execute keys address i).2.registers.i = m.registers.i := by
  cases i with
  | skipIfEqual x nn | skipIfNotEqual x nn | skipIfSame x y | skipIfDifferent x y
  | skipIfPressed x | skipIfReleased x => exact (m.registers_skipIf _).2
  | alu x y op =>
    show (m.alu x y op).registers.i = m.registers.i
    rw [(m.computesAlu x y op).next_eq]
  | waitForKey x => exact (m.registers_waitForKey keys address x).2
  | loadIndex nnn | addIndex x | loadGlyph x => exact absurd trivial h
  | storeRegisters x =>
    show (m.storeRegisters x).registers.i = m.registers.i
    rw [registers_storeRegisters]
    exact if_neg h
  | loadRegisters x => exact index_loadRegisters.trans (if_neg h)
  | _ => rfl

theorem pc_execute_of_not_departs (h : ¬ i.Departs m keys) :
    (m.execute keys address i).2.registers.pc = m.registers.pc := by
  obtain ⟨hskip, hdeparts⟩ := not_or.mp h
  cases htaken : i.skips? m keys with
  | some taken =>
    have hnot : taken = false := by simpa [htaken] using hskip
    rw [execute_of_skips? htaken, hnot]
    rfl
  | none =>
  cases i with
  | skipIfEqual x nn | skipIfNotEqual x nn | skipIfSame x y | skipIfDifferent x y
  | skipIfPressed x | skipIfReleased x => exact absurd htaken (Option.some_ne_none _)
  | alu x y op =>
    show (m.alu x y op).registers.pc = m.registers.pc
    rw [(m.computesAlu x y op).next_eq]
  | waitForKey x =>
    show (m.waitForKey keys address x).2.registers.pc = m.registers.pc
    unfold waitForKey
    cases hlowest : keys.lowest? with
    | none => exact absurd (Keypad.lowest?_eq_none_iff.mp hlowest) hdeparts
    | some key => rfl
  | addIndex x => exact m.pc_addIndex x
  | storeRegisters x =>
    show (m.storeRegisters x).registers.pc = m.registers.pc
    rw [registers_storeRegisters]
  | loadRegisters x => exact pc_loadRegisters
  | ret | jump nnn | call nnn | jumpOffset x nnn => exact absurd trivial hdeparts
  | _ => rfl

theorem flag_execute_addIndex (m : Machine) (keys : Keypad) (address : UInt16) (x : Nibble) :
    (m.execute keys address (.addIndex x)).2.get Registers.flagRegister =
        m.get Registers.flagRegister ∨
      (m.execute keys address (.addIndex x)).2.get Registers.flagRegister = 1 := by
  show (m.addIndex x).get Registers.flagRegister = _ ∨ (m.addIndex x).get _ = 1
  rw [get_addIndex]
  split
  · exact .inr rfl
  · exact .inl rfl

end Execution

-- Whatever the word at the program counter is, its cycle changes nothing outside
-- the footprint of the instruction.
theorem cycle_keeps_to_footprint (m : Machine) (keys : Keypad) :
    m.KeepsToFootprint keys (m.cycle keys).1.instruction (m.cycle keys).2 where
  memory _ h := read_execute_of_not_stores (m := m.advance) h
  stack := stack_execute_of_ne (m := m.advance)
  display := display_execute_of_ne (m := m.advance)
  delay := delay_execute_of_ne (m := m.advance)
  sound := sound_execute_of_ne (m := m.advance)
  random := random_execute_of_ne (m := m.advance)
  index := index_execute_of_not_setsIndex (m := m.advance)
  register _ hr h := get_execute_of_not_names (m := m.advance) h fun heq => absurd heq hr
  flag hnames hflags := get_execute_of_not_names (m := m.advance) hnames fun _ => hflags
  flag_addIndex x h := by
    have hflag := flag_execute_addIndex m.advance keys m.registers.pc x
    rwa [← h] at hflag
  counter h := (pc_execute_of_not_departs (m := m.advance) h).trans m.pc_advance
  counter_toNat hpos hle h := by
    rw [← toNat_pc_advance hpos hle]
    exact congrArg _ (pc_execute_of_not_departs (m := m.advance) h)
  memorySize := m.memorySize_cycle keys
  delayTime := sameTime_delay_execute (m := m.advance)
  clock := clock_execute m.advance keys _ _
  dialect := dialect_execute m.advance keys _ _
  fontAddress := fontAddress_execute m.advance keys _ _

end Machine

end Chip8
