import Chip8.Proofs.Machine.Effect

namespace Chip8

def Outcome.reportedAt (address : UInt16) : Outcome → Outcome
  | .done => .done
  | .waiting => .waiting
  | .faulted fault => .faulted { fault with address }

def Cycle.fetchedAt (address : UInt16) (c : Cycle) : Cycle :=
  { c with address, outcome := c.outcome.reportedAt address }

namespace Machine

-- The second machine is the first one but for its program counter, which is at
-- the same place of the ring.
structure SamePlace (m m' : Machine) : Prop where
  machine_eq : m' = m.jumpTo m'.registers.pc
  place_eq : m'.registers.pc.toNat % m.memory.size = m.registers.pc.toNat % m.memory.size

section Cycles

variable {m m' : Machine}

theorem SamePlace.refl (m : Machine) : m.SamePlace m := ⟨rfl, rfl⟩

theorem SamePlace.memory_eq (h : m.SamePlace m') : m'.memory = m.memory := by
  rw [h.machine_eq]
  rfl

theorem SamePlace.wordAddress_eq (h : m.SamePlace m') : m'.wordAddress = m.wordAddress := by
  rw [wordAddress, wordAddress, h.memory_eq, h.place_eq]

theorem SamePlace.nextOpcode_eq (h : m.SamePlace m') : m'.nextOpcode = m.nextOpcode := by
  rw [nextOpcode, nextOpcode, h.wordAddress_eq, h.memory_eq]

-- A fetch folds the counter, and with it the difference is gone.
theorem SamePlace.advance_eq (h : m.SamePlace m') : m'.advance = m.advance := by
  rw [advance, advance, h.wordAddress_eq, h.memory_eq, h.machine_eq]
  rfl

-- The address of an instruction enters what it does by a fault, which reports
-- it, and by a wait, which goes back to it.
theorem execute_of_address (m : Machine) (keys : Keypad) (address address' : UInt16)
    (i : Instruction) :
    (m.execute keys address' i).1 = (m.execute keys address i).1.reportedAt address' ∧
      ((m.execute keys address i).1 ≠ .waiting →
        (m.execute keys address' i).2 = (m.execute keys address i).2) ∧
      ((m.execute keys address i).1 = .waiting →
        (m.execute keys address i).2 = m.jumpTo address ∧
          (m.execute keys address' i).2 = m.jumpTo address') := by
  cases i with
  | waitForKey x =>
    simp only [execute, waitForKey]
    cases keys.lowest? with
    | some key => simp [Outcome.reportedAt]
    | none => simp [Outcome.reportedAt]
  | _ => simp [execute, Outcome.reportedAt]

theorem cycle_of_waiting {keys : Keypad} (h : (m.cycle keys).1.outcome = .waiting) :
    (m.cycle keys).2 = m := by
  obtain ⟨-, -, hwaiting⟩ := m.advance.execute_of_address keys m.registers.pc m.registers.pc
    (.decode m.nextOpcode)
  have hback : (m.cycle keys).2 = m.advance.jumpTo m.registers.pc := (hwaiting h).1
  rw [hback]
  rfl

theorem SamePlace.cycle_eq (h : m.SamePlace m') (keys : Keypad) :
    (m'.cycle keys).1 = (m.cycle keys).1.fetchedAt m'.registers.pc := by
  obtain ⟨houtcome, -, -⟩ := m.advance.execute_of_address keys m.registers.pc m'.registers.pc
    (.decode m.nextOpcode)
  simp only [Machine.cycle, h.advance_eq, h.nextOpcode_eq, Cycle.fetchedAt, houtcome]

-- A cycle either waits, and then both machines stay as they are, or makes them
-- equal.
theorem SamePlace.cycle (h : m.SamePlace m') (keys : Keypad) :
    (m.cycle keys).2.SamePlace (m'.cycle keys).2 := by
  by_cases hwaits : (m.cycle keys).1.outcome = .waiting
  · have hwaits' : (m'.cycle keys).1.outcome = .waiting := by
      rw [h.cycle_eq, Cycle.fetchedAt, hwaits]
      rfl
    rwa [cycle_of_waiting hwaits, cycle_of_waiting hwaits']
  · obtain ⟨-, hdone, -⟩ := m.advance.execute_of_address keys m.registers.pc m'.registers.pc
      (.decode m.nextOpcode)
    have hnext : (m'.cycle keys).2 = (m.cycle keys).2 := by
      simp only [Machine.cycle, h.advance_eq, h.nextOpcode_eq]
      exact hdone hwaits
    rw [hnext]
    exact .refl _

end Cycles

-- Machines at the same place run alike under every sequence of snapshots, for as
-- long as it may be: each cycle is that of the other machine but for the address
-- that it was fetched from, and the machines stay at the same place.
theorem samePlace_runs_alike {m m' : Machine} (h : m.SamePlace m') (snapshots : List Keypad) :
    (∀ k, (m'.cycles snapshots)[k]? =
      (m.cycles snapshots)[k]?.map (Cycle.fetchedAt (m'.before snapshots k).registers.pc)) ∧
    ∀ k, (m.before snapshots k).SamePlace (m'.before snapshots k) := by
  have hbefore : ∀ k, (m.before snapshots k).SamePlace (m'.before snapshots k) := by
    intro k
    induction snapshots generalizing m m' k with
    | nil => simpa [before] using h
    | cons keys rest ih =>
      cases k with
      | zero => exact h
      | succ k => exact ih (h.cycle keys) k
  refine ⟨fun k => ?_, hbefore⟩
  rw [getElem?_cycles, getElem?_cycles]
  cases snapshots[k]? with
  | none => rfl
  | some keys => exact congrArg some ((hbefore k).cycle_eq keys)

-- A wait, a word that is no instruction, a call and its return, in sixteen bytes;
-- the counter is at the wait.
def waitAtFour : Machine :=
  { ofConfig { memorySize := 16, programAddress := 4, fontAddress := 0 }
      ⟨Vector.replicate 8 0, 0⟩ with
    memory := ⟨#[0, 0, 0, 0, 0xF1, 0x0A, 0xFF, 0xFF, 0x20, 0x0C, 0, 0, 0x00, 0xEE, 0, 0]⟩ }

def keyAtThird : List Keypad :=
  [.released, .released, Keypad.released.set 3 true, .released, .released, .released]

-- The same program from address twenty: the wait goes back to twenty and the rest
-- of the run is the same.
theorem samePlace_runs_alike_pastEnd :
    waitAtFour.SamePlace (waitAtFour.jumpTo 20) ∧
      (waitAtFour.cycles keyAtThird).map Cycle.instruction =
        [.waitForKey 1, .waitForKey 1, .waitForKey 1, .unknown 0xFFFF, .call 0xC, .ret] ∧
      ((waitAtFour.jumpTo 20).cycles keyAtThird)[1]? = some ⟨20, 0xF10A, .waiting⟩ ∧
      (waitAtFour.before keyAtThird 6).SamePlace ((waitAtFour.jumpTo 20).before keyAtThird 6) := by
  have hplace : waitAtFour.SamePlace (waitAtFour.jumpTo 20) := ⟨rfl, by decide⟩
  obtain ⟨hcycles, hbefore⟩ := samePlace_runs_alike hplace keyAtThird
  refine ⟨hplace, by decide, ?_, hbefore 6⟩
  rw [hcycles 1]
  decide

end Machine

end Chip8
