import Chip8.Proofs.Emulator.Clocks
import Chip8.Proofs.Machine.Fault

namespace Chip8.Emulator

-- The emulator once its clocks have been fed `times` and its program counter is
-- at `pc`. Everything else is as it was.
def paced (e : Emulator) (pc : UInt16) (times : List Nat) : Emulator :=
  { e with
    machine := { e.machine with
      registers := { e.machine.registers with pc }
      delay := e.machine.delay.after times
      clock := e.machine.clock.after times }
    frameClock := e.frameClock.after times
    frameDue := e.frameDue || (e.frameClock.readings times).any Timer.Reading.stepped }

theorem paced_nil (e : Emulator) : e.paced e.machine.registers.pc [] = e := by
  simp [paced, Timer.readings]

theorem paced_paced (e : Emulator) (pc pc' : UInt16) (first second : List Nat) :
    (e.paced pc first).paced pc' second = e.paced pc' (first ++ second) := by
  simp only [paced, Timer.after_append, Timer.readings_append, List.any_append, Bool.or_assoc]

section Step

variable {e : Emulator} {delta : Nat} {fault : Fault}

theorem update_of_not_due (h : e.machine.clock.due delta = false) :
    (e.update delta).1.cycle? = none ∧
      (e.update delta).2 = e.paced e.machine.registers.pc [delta] := by
  rw [update, Machine.tick_of_not_due h]
  refine ⟨rfl, ?_⟩
  simp only [paced, Timer.readings, List.any_cons, List.any_nil, Bool.or_false]
  rfl

theorem update_of_due (h : e.machine.clock.due delta = true) :
    (e.update delta).1.cycle? = some ((e.machine.timed delta).cycle e.keys).1 ∧
      (e.update delta).2 =
        { e.paced e.machine.registers.pc [delta] with
          machine := ((e.machine.timed delta).cycle e.keys).2 } := by
  rw [update, Machine.tick_of_due h]
  refine ⟨rfl, ?_⟩
  simp only [paced, Timer.readings, List.any_cons, List.any_nil, Bool.or_false]
  rfl

theorem fault?_update_iff :
    (e.update delta).1.fault? = some fault ↔
      e.machine.clock.due delta = true ∧ ¬ e.machine.nextOpcode.Supported ∧
        fault = ⟨e.machine.nextOpcode, e.machine.registers.pc⟩ := by
  unfold Report.fault?
  cases hdue : e.machine.clock.due delta with
  | true =>
    rw [(update_of_due hdue).1, and_iff_right rfl]
    exact Machine.fault?_cycle_iff
  | false =>
    rw [(update_of_not_due hdue).1]
    exact ⟨nofun, fun h => Bool.noConfusion h.1⟩

theorem update_of_fault (h : (e.update delta).1.fault? = some fault) :
    (e.update delta).2 = e.paced e.machine.advance.registers.pc [delta] := by
  obtain ⟨hdue, hno, -⟩ := fault?_update_iff.mp h
  have hcycle := Machine.cycle_of_not_supported (m := e.machine.timed delta) hno e.keys
  rw [(update_of_due hdue).2, hcycle]
  rfl

end Step

-- An update that faults reports the word at the program counter and where it
-- stands, and moves nothing but the counter and the clocks.
structure FaultsCleanly (e : Emulator) (delta : Nat) (fault : Fault) : Prop where
  executed : (e.update delta).1.executed = true
  not_waiting : (e.update delta).1.waiting = false
  address_eq : fault.address = e.machine.registers.pc
  opcode_eq :
    fault.opcode.toNat =
      (e.machine.memory.read (e.machine.registers.pc.toNat % e.machine.memory.size)).toNat * 256 +
        (e.machine.memory.read
          ((e.machine.registers.pc.toNat + 1) % e.machine.memory.size)).toNat
  next_eq : ∃ pc : UInt16,
    pc.toNat = (e.machine.registers.pc.toNat + 2) % e.machine.memory.size ∧
      (e.update delta).2 = e.paced pc [delta]

-- Every update ticks each clock by its time, whatever it executes. Only Fx15
-- writes to a clock, and only to its count.
structure TicksClocks (e : Emulator) (delta : Nat) : Prop where
  clock_eq : (e.update delta).2.machine.clock = e.machine.clock.tick delta
  frameClock_eq : (e.update delta).2.frameClock = e.frameClock.tick delta
  delay_eq :
    (e.update delta).2.machine.delay =
      match (e.update delta).1.cycle?.map Cycle.instruction with
      | some (.setDelay x) => (e.machine.delay.tick delta).set (e.machine.get x).toUInt32
      | _ => e.machine.delay.tick delta

theorem ticksClocks (e : Emulator) (delta : Nat) : e.TicksClocks delta :=
  ⟨e.machine.clock_tick e.keys delta, rfl, e.machine.delay_tick e.keys delta⟩

def Response.faults : Response → Bool
  | .report r => r.fault?.isSome
  | _ => false

def OnlyFaults (e : Emulator) (times : List Nat) : Prop :=
  ∀ report, Response.report report ∈ e.responses (times.map .update) →
    report.executed = true → report.fault?.isSome = true

section Run

variable {e : Emulator} {delta : Nat} {fault : Fault}

theorem faultsCleanly (hpos : 0 < e.machine.memory.size) (hle : e.machine.memory.size ≤ 0x10000)
    (h : (e.update delta).1.fault? = some fault) : e.FaultsCleanly delta fault := by
  obtain ⟨hdue, hno, rfl⟩ := fault?_update_iff.mp h
  have hcycle := (update_of_due hdue).1
  rw [Machine.cycle_of_not_supported (m := e.machine.timed delta) hno] at hcycle
  exact {
    executed := by rw [Report.executed, hcycle]; rfl
    not_waiting := by rw [Report.waiting, hcycle]; rfl
    address_eq := rfl
    opcode_eq := e.machine.toNat_nextOpcode
    next_eq := ⟨_, Machine.toNat_pc_advance hpos hle, update_of_fault h⟩ }

theorem isSome_fault?_update_iff :
    (e.update delta).1.fault?.isSome = true ↔
      e.machine.clock.due delta = true ∧ ¬ e.machine.nextOpcode.Supported := by
  constructor
  · intro h
    obtain ⟨fault, hfault⟩ := Option.isSome_iff_exists.mp h
    obtain ⟨hdue, hno, -⟩ := fault?_update_iff.mp hfault
    exact ⟨hdue, hno⟩
  · rintro ⟨hdue, hno⟩
    rw [fault?_update_iff.mpr ⟨hdue, hno, rfl⟩]
    rfl

theorem update_of_executed_imp_fault (hpos : 0 < e.machine.memory.size)
    (hle : e.machine.memory.size ≤ 0x10000)
    (h : (e.update delta).1.executed = true → (e.update delta).1.fault?.isSome = true) :
    ∃ pc : UInt16, (e.update delta).2 = e.paced pc [delta] ∧
      pc.toNat % e.machine.memory.size =
        (e.machine.registers.pc.toNat + 2 * (e.update delta).1.fault?.isSome.toNat) %
          e.machine.memory.size := by
  cases hdue : e.machine.clock.due delta with
  | true =>
    have hfault := h ((e.ticksOnce delta).executed_eq.trans hdue)
    obtain ⟨fault, hsome⟩ := Option.isSome_iff_exists.mp hfault
    obtain ⟨pc, hpc, hnext⟩ := (faultsCleanly hpos hle hsome).next_eq
    refine ⟨pc, hnext, ?_⟩
    rw [hpc, hfault]
    exact Nat.mod_mod _ _
  | false =>
    obtain ⟨hcycle, hnext⟩ := update_of_not_due hdue
    refine ⟨e.machine.registers.pc, hnext, ?_⟩
    rw [Report.fault?, hcycle]
    rfl

theorem after_of_onlyFaults (hpos : 0 < e.machine.memory.size)
    (hle : e.machine.memory.size ≤ 0x10000) {times : List Nat} (h : e.OnlyFaults times) :
    ∃ pc : UInt16, e.after (times.map .update) = e.paced pc times ∧
      pc.toNat % e.machine.memory.size =
        (e.machine.registers.pc.toNat +
          2 * (e.responses (times.map .update)).countP Response.faults) %
            e.machine.memory.size := by
  induction times generalizing e with
  | nil => exact ⟨e.machine.registers.pc, e.paced_nil.symm, rfl⟩
  | cons delta rest ih =>
    obtain ⟨pc, hnext, hpc⟩ := update_of_executed_imp_fault hpos hle (h _ (List.mem_cons_self ..))
    have hrest : (e.paced pc [delta]).OnlyFaults rest := by
      rw [← hnext]
      exact fun report hreport => h report (List.mem_cons_of_mem _ hreport)
    obtain ⟨last, hafter, hlast⟩ := ih (e := e.paced pc [delta]) hpos hle hrest
    have hcount : (e.responses ((delta :: rest).map .update)).countP Response.faults =
        ((e.paced pc [delta]).responses (rest.map .update)).countP Response.faults +
          (e.update delta).1.fault?.isSome.toNat := by
      show (Response.report _ :: (e.update delta).2.responses _).countP _ = _
      rw [hnext, List.countP_cons]
      congr 1
      show (if (e.update delta).1.fault?.isSome then 1 else 0) = _
      cases (e.update delta).1.fault?.isSome <;> rfl
    rw [paced_paced] at hafter
    refine ⟨last, ?_, ?_⟩
    · show (e.update delta).2.after (rest.map .update) = _
      rw [hnext, hafter]
      rfl
    · change last.toNat % e.machine.memory.size = (pc.toNat + _) % e.machine.memory.size at hlast
      rw [hlast, ← Nat.mod_add_mod, hpc, Nat.mod_add_mod, hcount, Nat.mul_add, Nat.add_assoc,
        Nat.add_comm (2 * _)]

end Run

-- An update of a reachable emulator faults exactly if an instruction is due and
-- the word at the program counter is none, and then it is a clean step over the
-- word. It ticks the clocks like any other update, and it keeps no later update
-- from executing; so a run of such words ends one word further for each.
theorem faults_change_only_counter_and_clocks {s : Emulator} (hs : s.Reachable) :
    (∀ delta fault, (s.update delta).1.fault? = some fault → s.FaultsCleanly delta fault) ∧
    (∀ delta, (s.update delta).1.fault?.isSome = true ↔
      s.machine.clock.due delta = true ∧ ¬ s.machine.nextOpcode.Supported) ∧
    (∀ delta, (s.update delta).1.executed = s.machine.clock.due delta ∧ s.TicksClocks delta) ∧
    ∀ times, s.OnlyFaults times → ∃ pc : UInt16,
      s.after (times.map .update) = s.paced pc times ∧
        pc.toNat % s.machine.memory.size =
          (s.machine.registers.pc.toNat +
            2 * (s.responses (times.map .update)).countP Response.faults) %
              s.machine.memory.size := by
  obtain ⟨hpos, hle⟩ := hs.memorySize_bounds
  exact ⟨fun delta fault => faultsCleanly hpos hle, fun delta => isSome_fault?_update_iff,
    fun delta => ⟨(s.ticksOnce delta).executed_eq, s.ticksClocks delta⟩,
    fun times => after_of_onlyFaults hpos hle⟩

-- Three bytes of memory, and a word around their end that is no instruction.
def strayWord : Config where
  memorySize := 3
  programAddress := 2
  fontAddress := 0

theorem faults_change_only_counter_and_clocks_stray :
    ∃ e, new strayWord (Vector.replicate 8 0) [0x12, 0x6A] [0xFF] = .ok e ∧
      (e.update Timer.second).1.fault? = some ⟨0xFF12, 2⟩ ∧
      (e.update Timer.second).2 = e.paced 1 [Timer.second] ∧
      ((e.update Timer.second).2.update Timer.second).1.fault? = none := by
  have hnew : new strayWord (Vector.replicate 8 0) [0x12, 0x6A] [0xFF] =
      .ok (built strayWord (Vector.replicate 8 0) [0x12, 0x6A] [0xFF]) :=
    new_eq_ok_iff.mpr ⟨by decide, by decide, by decide, by decide, rfl⟩
  obtain ⟨hclean, -⟩ := faults_change_only_counter_and_clocks ⟨_, _, _, _, _, [], hnew, rfl⟩
  have hfault : ((built strayWord (Vector.replicate 8 0) [0x12, 0x6A] [0xFF]).update
      Timer.second).1.fault? = some ⟨0xFF12, 2⟩ := by decide
  obtain ⟨pc, hpc, hnext⟩ := (hclean _ _ hfault).next_eq
  obtain rfl : pc = 1 := UInt16.toNat_inj.mp (hpc.trans (by decide))
  obtain ⟨-, hfaults, -⟩ := faults_change_only_counter_and_clocks
    ⟨_, _, _, _, _, [.update Timer.second], hnew, rfl⟩
  refine ⟨_, hnew, hfault, hnext, Option.not_isSome_iff_eq_none.mp fun h => ?_⟩
  exact ((hfaults Timer.second).mp h).2 ⟨.load 0xA 0xFF, trivial, by decide⟩

end Chip8.Emulator
