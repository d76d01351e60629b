import Chip8.Proofs.Machine.Effect
import Chip8.Proofs.Machine.Raster

namespace Chip8

structure Timer.Paced (t : Timer) (frequency : UInt32) (bound : Nat) : Prop where
  frequency_eq : t.frequency = frequency
  period_eq : t.period = (ofFrequency frequency).period
  value_le : t.value.toNat ≤ bound

namespace Timer

theorem paced_ofFrequency (frequency : UInt32) (bound : Nat) :
    (ofFrequency frequency).Paced frequency bound :=
  ⟨rfl, rfl, Nat.zero_le _⟩

theorem toNat_nextValue (t : Timer) :
    t.nextValue.toNat = if t.value = 0 then t.frequency.toNat else t.value.toNat - 1 := by
  unfold nextValue
  split
  · rfl
  · rename_i h
    have hne : t.value.toNat ≠ 0 := fun hzero => h (UInt32.toNat_inj.mp hzero)
    have hone : (1 : UInt32) ≤ t.value :=
      UInt32.le_iff_toNat_le.mpr (Nat.one_le_iff_ne_zero.mpr hne)
    exact UInt32.toNat_sub_of_le _ _ hone

variable {t : Timer} {frequency : UInt32} {bound : Nat}

theorem Paced.tick (h : t.Paced frequency bound) (hbound : frequency.toNat ≤ bound) (delta : Nat) :
    (t.tick delta).Paced frequency bound := by
  have hvalue := h.value_le
  refine ⟨by rw [frequency_tick, h.frequency_eq], by rw [period_tick, h.period_eq], ?_⟩
  unfold Timer.tick
  split
  · show t.nextValue.toNat ≤ bound
    rw [toNat_nextValue, h.frequency_eq]
    split <;> omega
  · exact hvalue

theorem Paced.set (h : t.Paced frequency bound) {value : UInt32} (hvalue : value.toNat ≤ bound) :
    (t.set value).Paced frequency bound :=
  ⟨h.frequency_eq, h.period_eq, hvalue⟩

end Timer

-- The machine has the sizes, rates and conventions of the configuration, and
-- its stack and its counts are within their bounds. A program can set the delay
-- count to any byte, whatever the rate.
structure Machine.Conforms (m : Machine) (c : Config) : Prop where
  memorySize : m.memory.size = c.memorySize
  display : m.display.Sized c.width c.height
  depth_le : m.stack.depth ≤ m.stack.capacity
  stackSize_le : c.stackSize ≤ m.stack.capacity
  delay : m.delay.Paced c.delayRate (max 255 c.delayRate.toNat)
  clock : m.clock.Paced c.instructionRate c.instructionRate.toNat
  dialect : m.dialect = c.dialect
  fontAddress : m.fontAddress = c.fontAddress

namespace Machine

section Construction

variable {c : Config} {unseeded : RandomKey}

theorem new_of_invalid {cause : ConfigError} (h : c.validate = .error cause) :
    new c unseeded = .error (.invalidConfig cause) := by
  rw [new, h]
  rfl

-- Memory is never too large to be allocated.
theorem new_of_validate (h : c.validate = .ok ()) :
    new c unseeded = (do
      let display ← (Display.new c.width c.height).mapError .overflow
      let stack ← (CallStack.new c.stackSize).mapError .overflow
      return start c (randomStream c unseeded) (.blank c.memorySize) display stack) := by
  have hle := (Config.valid_of_validate h).memorySize_le
  have hmemory : Memory.new c.memorySize = .ok (.blank c.memorySize) :=
    Memory.new_of_lt (Nat.lt_of_le_of_lt hle (by decide))
  rw [new, h, hmemory]
  rfl

theorem new_of_allocatable (h : c.validate = .ok ()) (hfits : c.Allocatable) :
    new c unseeded = .ok (ofConfig c (randomStream c unseeded)) := by
  rw [new_of_validate h, Display.new_of_lt hfits.display, CallStack.new_of_lt hfits.stack]
  rfl

theorem new_of_wordLimit_le (h : c.validate = .ok ()) (hlarge : wordLimit ≤ c.width * c.height) :
    new c unseeded = .error (.overflow .multiplication) := by
  rw [new_of_validate h, Display.new_of_wordLimit_le hlarge]
  rfl

theorem new_of_not_allocatable (h : c.validate = .ok ()) (hword : c.width * c.height < wordLimit)
    (hlarge : ¬ c.Allocatable) : new c unseeded = .error (.overflow .capacity) := by
  rw [new_of_validate h]
  by_cases hdisplay : c.width * c.height < allocationLimit
  · have hstack : allocationLimit ≤ 2 * c.stackSize :=
      Nat.not_lt.mp fun hstack => hlarge ⟨hdisplay, hstack⟩
    rw [Display.new_of_lt hdisplay, CallStack.new_of_le hstack]
    rfl
  · rw [Display.new_of_allocationLimit_le (Nat.not_lt.mp hdisplay) hword]
    rfl

end Construction

theorem conforms_ofConfig (c : Config) (random : RandomStream) :
    (ofConfig c random).Conforms c where
  memorySize := Memory.size_blank _
  display := Display.sized_of_eq rfl rfl
  depth_le := Nat.zero_le _
  stackSize_le := by simp [ofConfig, start, CallStack.empty, CallStack.capacity]
  delay := Timer.paced_ofFrequency _ _
  clock := Timer.paced_ofFrequency _ _
  dialect := rfl
  fontAddress := rfl

variable {m : Machine} {c : Config}

theorem Conforms.execute (h : m.Conforms c) (keys : Keypad) (address : UInt16) (i : Instruction) :
    (m.execute keys address i).2.Conforms c where
  memorySize := by rw [memorySize_execute, h.memorySize]
  display := by
    rw [display_execute]
    cases i with
    | clearDisplay => exact h.display.clear
    | draw x y n => exact h.display.draw _ _ _
    | _ => exact h.display
  depth_le := CallStack.depth_le _
  stackSize_le := by
    have hsize := h.stackSize_le
    rw [stack_execute]
    cases i with
    | call nnn =>
      rw [CallStack.capacity_push]
      exact Nat.le_trans hsize (Nat.le_max_left _ _)
    | ret => exact Nat.le_trans hsize (Nat.le_of_eq (CallStack.capacity_pop _).symm)
    | _ => exact hsize
  delay := by
    rw [delay_execute]
    cases i with
    | setDelay x =>
      apply h.delay.set
      have hbyte := (m.get x).toNat_lt
      rw [UInt8.toNat_toUInt32]
      omega
    | _ => exact h.delay
  clock := by rw [clock_execute]; exact h.clock
  dialect := by rw [dialect_execute, h.dialect]
  fontAddress := by rw [fontAddress_execute, h.fontAddress]

theorem Conforms.advance (h : m.Conforms c) : m.advance.Conforms c :=
  ⟨h.memorySize, h.display, h.depth_le, h.stackSize_le, h.delay, h.clock, h.dialect, h.fontAddress⟩

theorem Conforms.cycle (h : m.Conforms c) (keys : Keypad) : (m.cycle keys).2.Conforms c :=
  h.advance.execute keys m.registers.pc (.decode m.nextOpcode)

theorem Conforms.timed (h : m.Conforms c) (delta : Nat) :
    (m.timed delta).Conforms c :=
  { h with
    delay := h.delay.tick (Nat.le_max_right _ _) delta
    clock := h.clock.tick (Nat.le_refl _) delta }

theorem Conforms.tick (h : m.Conforms c) (keys : Keypad) (delta : Nat) :
    (m.tick keys delta).2.Conforms c :=
  tick_induction (motive := fun next => next.Conforms c) (h.timed delta)
    ((h.timed delta).cycle keys)

end Machine

end Chip8
