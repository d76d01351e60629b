import Chip8.Proofs.Emulator.Faults
import Chip8.Proofs.Machine.Keys

namespace Chip8

namespace Machine

section Cycles

variable {m : Machine} {keys : Keypad} {x : Nibble}

theorem cycle_of_wait (hword : .decode m.nextOpcode = Instruction.waitForKey x) (keys : Keypad) :
    m.cycle keys =
      (⟨m.registers.pc, m.nextOpcode, (m.advance.waitForKey keys m.registers.pc x).1⟩,
        (m.advance.waitForKey keys m.registers.pc x).2) := by
  rw [cycle, hword]
  rfl

-- The wait goes back to its own address, which undoes the fetch.
theorem cycle_of_wait_of_no_key (hword : .decode m.nextOpcode = Instruction.waitForKey x)
    (hkeys : ∀ key, keys.isDown key = false) :
    m.cycle keys = (⟨m.registers.pc, m.nextOpcode, .waiting⟩, m) := by
  have hlowest : keys.lowest? = none := Keypad.lowest?_eq_none_iff.mpr hkeys
  rw [cycle_of_wait hword, waitForKey, hlowest]
  rfl

theorem cycle_of_wait_of_key (hword : .decode m.nextOpcode = Instruction.waitForKey x)
    {key : Nibble} (hkey : keys.IsLowest key) :
    m.cycle keys = (⟨m.registers.pc, m.nextOpcode, .done⟩, m.advance.set x key.toByte) := by
  have hlowest : keys.lowest? = some key := Keypad.lowest?_eq_some_iff.mpr hkey
  rw [cycle_of_wait hword, waitForKey, hlowest]

end Cycles

end Machine

namespace Emulator

-- A run of updates and key changes. Keys may go down between two updates, but
-- no update that executes finds one down.
def FindsNoKey (e : Emulator) : List Event → Prop
  | [] => True
  | .update delta :: rest =>
    ((e.update delta).1.executed = true → ∀ key, e.keys.isDown key = false) ∧
      (e.update delta).2.FindsNoKey rest
  | .setKey key down :: rest => (e.setKey key down).FindsNoKey rest
  | .takeFrame :: _ => False

def keysAfter (keys : Keypad) : List Event → Keypad
  | [] => keys
  | .setKey key down :: rest => keysAfter (keys.set key down) rest
  | _ :: rest => keysAfter keys rest

-- An update that ends a wait takes the key into Vx and moves the program counter
-- to the next word. It ticks the clocks like any other update.
structure EndsWait (e : Emulator) (x : Nibble) (delta : Nat) (key : Nibble) : Prop where
  not_waiting : (e.update delta).1.waiting = false
  no_fault : (e.update delta).1.fault? = none
  next_eq : ∃ pc : UInt16,
    pc = UInt16.ofNat ((e.machine.registers.pc.toNat + 2) % e.machine.memory.size) ∧
      (0 < e.machine.memory.size → e.machine.memory.size ≤ 0x10000 →
        pc.toNat = (e.machine.registers.pc.toNat + 2) % e.machine.memory.size) ∧
      (e.update delta).2 =
        { e.paced pc [delta] with machine := (e.paced pc [delta]).machine.set x key.toByte }

section Step

variable {e : Emulator} {x : Nibble} {delta : Nat}

theorem update_of_wait (hword : .decode e.machine.nextOpcode = Instruction.waitForKey x)
    (hkeys : (e.update delta).1.executed = true → ∀ key, e.keys.isDown key = false) :
    (e.update delta).2 = e.paced e.machine.registers.pc [delta] ∧
      ((e.update delta).1.executed = true →
        (e.update delta).1.waiting = true ∧ (e.update delta).1.fault? = none) := by
  rw [(e.ticksOnce delta).executed_eq] at hkeys ⊢
  cases hdue : e.machine.clock.due delta with
  | false =>
    exact ⟨(update_of_not_due hdue).2, fun h => absurd h Bool.false_ne_true⟩
  | true =>
    obtain ⟨hcycle, hnext⟩ := update_of_due hdue
    have hwait := Machine.cycle_of_wait_of_no_key (m := e.machine.timed delta) hword (hkeys hdue)
    rw [hwait] at hcycle hnext
    refine ⟨hnext, fun _ => ?_⟩
    rw [Report.waiting, Report.fault?, hcycle]
    exact ⟨rfl, rfl⟩

theorem endsWait_of_key (hword : .decode e.machine.nextOpcode = Instruction.waitForKey x)
    (hdue : (e.update delta).1.executed = true) {key : Nibble} (hkey : e.keys.IsLowest key) :
    e.EndsWait x delta key := by
  rw [(e.ticksOnce delta).executed_eq] at hdue
  obtain ⟨hcycle, hnext⟩ := update_of_due hdue
  have hwait := Machine.cycle_of_wait_of_key (m := e.machine.timed delta) hword hkey
  rw [hwait] at hcycle hnext
  refine ⟨?_, ?_, _, e.machine.pc_advance, Machine.toNat_pc_advance, hnext⟩
  · rw [Report.waiting, hcycle]
    rfl
  · rw [Report.fault?, hcycle]
    rfl

end Step

section Run

variable {e : Emulator} {x : Nibble} {events : List Event}

theorem before_of_findsNoKey (hword : .decode e.machine.nextOpcode = Instruction.waitForKey x)
    (hrun : e.FindsNoKey events) (k : Nat) :
    e.before events k =
      { e.paced e.machine.registers.pc (deltas (events.take k)) with
        keys := keysAfter e.keys (events.take k) } := by
  induction events generalizing e k with
  | nil =>
    rw [before, List.take_nil, after_nil]
    exact e.paced_nil.symm
  | cons event rest ih =>
    cases k with
    | zero => exact e.paced_nil.symm
    | succ k =>
      have hstep : e.before (event :: rest) (k + 1) = (e.handle event).2.before rest k := rfl
      rw [hstep, List.take_succ_cons, deltas_cons]
      cases event with
      | update delta =>
        obtain ⟨hkeys, hrest⟩ := hrun
        have hnext : (e.handle (.update delta)).2 = e.paced e.machine.registers.pc [delta] :=
          (update_of_wait hword hkeys).1
        have hlater := ih (e := (e.handle (.update delta)).2) (by rw [hnext]; exact hword) hrest k
        rw [hnext, paced_paced] at hlater
        rw [hnext]
        exact hlater
      | setKey key down => exact ih (e := e.setKey key down) hword hrun k
      | takeFrame => exact hrun.elim

theorem waiting_of_findsNoKey (hword : .decode e.machine.nextOpcode = Instruction.waitForKey x)
    (hrun : e.FindsNoKey events) {report : Report}
    (hreport : .report report ∈ e.responses events) (hexecuted : report.executed = true) :
    report.waiting = true ∧ report.fault? = none := by
  induction events generalizing e with
  | nil => exact absurd hreport List.not_mem_nil
  | cons event rest ih =>
    cases event with
    | update delta =>
      obtain ⟨hkeys, hrest⟩ := hrun
      obtain ⟨hnext, hwaits⟩ := update_of_wait hword hkeys
      rcases List.mem_cons.mp hreport with hfirst | hlater
      · obtain rfl : report = (e.update delta).1 := Response.report.inj hfirst
        exact hwaits hexecuted
      · exact ih (e := (e.update delta).2) (by rw [hnext]; exact hword) hrest hlater
    | setKey key down =>
      rcases List.mem_cons.mp hreport with hfirst | hlater
      · exact absurd hfirst Response.noConfusion
      · exact ih (e := e.setKey key down) hword hrun hlater
    | takeFrame => exact hrun.elim

end Run

-- However long no key is down, an emulator at a wait moves nothing but its
-- clocks: every update that executes waits, and between any two events the rest
-- is as it was. The first update that executes with a key down ends the wait.
theorem wait_lasts_until_key {e : Emulator} {x : Nibble} {events : List Event}
    (hword : .decode e.machine.nextOpcode = Instruction.waitForKey x)
    (hrun : e.FindsNoKey events) :
    (∀ report, Response.report report ∈ e.responses events → report.executed = true →
      report.waiting = true ∧ report.fault? = none) ∧
    (∀ k, e.before events k =
      { e.paced e.machine.registers.pc (deltas (events.take k)) with
        keys := keysAfter e.keys (events.take k) }) ∧
    ∀ delta, ((e.after events).update delta).1.executed = true →
      ∀ down, (e.after events).keys.isDown down = true →
        ∃ key, (e.after events).keys.IsLowest key ∧ (e.after events).EndsWait x delta key := by
  refine ⟨fun report => waiting_of_findsNoKey hword hrun, before_of_findsNoKey hword hrun, ?_⟩
  intro delta hexecuted down hdown
  have hafter := before_of_findsNoKey hword hrun events.length
  rw [before, List.take_length] at hafter
  have hsame : .decode (e.after events).machine.nextOpcode = Instruction.waitForKey x := by
    rw [hafter]
    exact hword
  obtain ⟨key, hkey⟩ := Keypad.exists_isLowest hdown
  exact ⟨key, hkey, endsWait_of_key hsame hexecuted hkey⟩

-- A wait at address four of sixteen bytes, and a program counter past their end.
def waitPastEnd : Emulator where
  machine :=
    { Machine.ofConfig { memorySize := 16, programAddress := 4, fontAddress := 0 }
        ⟨Vector.replicate 8 0, 0⟩ with
      memory := ⟨#[0, 0, 0, 0, 0xF1, 0x0A, 0, 0, 0, 0, 0, 0, 0, 0, 0, 0]⟩
      registers := .atAddress 20 }
  keys := .released
  frameClock := .ofFrequency 60
  frameDue := false

-- Key seven is down while no instruction is due; two keys go down at the end.
def lateKeys : List Event :=
  [.update Timer.second, .setKey 7 true, .update 0, .setKey 7 false, .update Timer.second,
    .setKey 9 true, .setKey 3 true]

theorem wait_lasts_until_key_pastEnd :
    .decode waitPastEnd.machine.nextOpcode = Instruction.waitForKey 1 ∧
      waitPastEnd.FindsNoKey lateKeys ∧
      (waitPastEnd.before lateKeys 5).machine.registers = .atAddress 20 ∧
      (waitPastEnd.after lateKeys).EndsWait 1 Timer.second 3 := by
  have hword : .decode waitPastEnd.machine.nextOpcode = Instruction.waitForKey 1 := by decide
  have hrun : waitPastEnd.FindsNoKey lateKeys :=
    ⟨fun _ => by decide, fun h => absurd h (by decide), fun _ => by decide, trivial⟩
  obtain ⟨-, hbefore, hends⟩ := wait_lasts_until_key hword hrun
  refine ⟨hword, hrun, ?_, ?_⟩
  · rw [hbefore 5]
    rfl
  · obtain ⟨key, hkey, hend⟩ := hends Timer.second (by decide) 9 (by decide)
    have hthree : (waitPastEnd.after lateKeys).keys.lowest? = some 3 := by decide
    have hlowest := Keypad.lowest?_eq_some_iff.mpr hkey
    obtain rfl : key = 3 := Option.some.inj (hlowest.symm.trans hthree)
    exact hend

end Emulator

end Chip8
