import Chip8.Proofs.Machine.Lockstep
import Chip8.Proofs.Machine.Transfer

namespace Chip8

inductive Dialect.Point where
  | shift
  | jumpOffset
  | indexSum
  | transfer
  | logic
  deriving DecidableEq, Repr

def Dialect.setting (d : Dialect) : Point → Bool
  | .shift => d.shiftsVy
  | .jumpOffset => d.jumpsByVx
  | .indexSum => d.indexSumSetsFlag
  | .transfer => d.transferMovesIndex
  | .logic => d.logicClearsFlag

def AluOp.point? : AluOp → Option Dialect.Point
  | .or | .and | .xor => some .logic
  | .shiftRight | .shiftLeft => some .shift
  | _ => none

-- The point that an instruction turns on. No instruction turns on two of them.
def Instruction.point? : Instruction → Option Dialect.Point
  | .alu _ _ op => op.point?
  | .jumpOffset _ _ => some .jumpOffset
  | .addIndex _ => some .indexSum
  | .storeRegisters _ | .loadRegisters _ => some .transfer
  | _ => none

def Dialect.AgreeOn (d d' : Dialect) (point? : Option Dialect.Point) : Prop :=
  ∀ point, point? = some point → d.setting point = d'.setting point

theorem AluOp.eval_of_agreeOn {d d' : Dialect} {op : AluOp} (h : d.AgreeOn d' op.point?)
    (vx vy : UInt8) : op.eval d' vx vy = op.eval d vx vy := by
  have hsetting (point : Dialect.Point) (hpoint : op.point? = some point) :
      d'.setting point = d.setting point := (h point hpoint).symm
  cases op with
  | or | and | xor =>
    have hlogic : d'.logicClearsFlag = d.logicClearsFlag := hsetting .logic rfl
    simp only [eval, hlogic]
  | shiftRight | shiftLeft =>
    have hshift : d'.shiftsVy = d.shiftsVy := hsetting .shift rfl
    simp only [eval, hshift]
  | _ => rfl

namespace Machine

def inDialect (m : Machine) (d : Dialect) : Machine := { m with dialect := d }

section Execution

variable {m : Machine} {d : Dialect}

theorem skipIf_inDialect (condition : Bool) :
    (m.inDialect d).skipIf condition = (m.skipIf condition).inDialect d := by
  cases condition <;> rfl

theorem alu_inDialect {op : AluOp} (h : m.dialect.AgreeOn d op.point?) (x y : Nibble) :
    (m.inDialect d).alu x y op = (m.alu x y op).inDialect d := by
  have heval : op.eval (m.inDialect d).dialect ((m.inDialect d).get x) ((m.inDialect d).get y) =
    op.eval m.dialect (m.get x) (m.get y) := AluOp.eval_of_agreeOn h _ _
  unfold alu
  rw [heval]
  split <;> rfl

theorem addIndex_inDialect (h : d.indexSumSetsFlag = m.dialect.indexSumSetsFlag) (x : Nibble) :
    (m.inDialect d).addIndex x = (m.addIndex x).inDialect d := by
  have hflag : (m.inDialect d).dialect.indexSumSetsFlag = m.dialect.indexSumSetsFlag := h
  have hindex : (m.inDialect d).registers.i.toNat + ((m.inDialect d).get x).toNat =
    m.registers.i.toNat + (m.get x).toNat := rfl
  unfold addIndex
  rw [hflag, hindex]
  by_cases hover : m.dialect.indexSumSetsFlag ∧ 0xFFF < m.registers.i.toNat + (m.get x).toNat
  · rw [if_pos hover, if_pos hover]
    rfl
  · rw [if_neg hover, if_neg hover]
    rfl

theorem waitForKey_inDialect (keys : Keypad) (address : UInt16) (x : Nibble) :
    (m.inDialect d).waitForKey keys address x =
      ((m.waitForKey keys address x).1, (m.waitForKey keys address x).2.inDialect d) := by
  unfold waitForKey
  split <;> rfl

theorem target_inDialect (h : d.transferMovesIndex = m.dialect.transferMovesIndex) (r : Nibble) :
    (m.inDialect d).target r = m.target r := by
  have hmoves : (m.inDialect d).dialect.transferMovesIndex = m.dialect.transferMovesIndex := h
  rw [target, target, hmoves]
  rfl

theorem movedIndex_inDialect (h : d.transferMovesIndex = m.dialect.transferMovesIndex) (n : Nat) :
    (m.inDialect d).movedIndex n = m.movedIndex n := by
  have hmoves : (m.inDialect d).dialect.transferMovesIndex = m.dialect.transferMovesIndex := h
  rw [movedIndex, movedIndex, hmoves]
  rfl

theorem storeRegisters_inDialect (h : d.transferMovesIndex = m.dialect.transferMovesIndex)
    (last : Nibble) :
    (m.inDialect d).storeRegisters last = (m.storeRegisters last).inDialect d := by
  simp only [storeRegisters_eq_stored, stored, target_inDialect h, movedIndex_inDialect h]
  rfl

theorem loadRegisters_inDialect (h : d.transferMovesIndex = m.dialect.transferMovesIndex)
    (last : Nibble) :
    (m.inDialect d).loadRegisters last = (m.loadRegisters last).inDialect d := by
  simp only [loadRegisters_eq_loaded, loaded, target_inDialect h, movedIndex_inDialect h]
  rfl

theorem jumpOffset_inDialect (h : d.jumpsByVx = m.dialect.jumpsByVx) (x : Nibble)
    (nnn : UInt16) : (m.inDialect d).jumpOffset x nnn = (m.jumpOffset x nnn).inDialect d := by
  have hjumps : (m.inDialect d).dialect.jumpsByVx = m.dialect.jumpsByVx := h
  unfold jumpOffset
  rw [hjumps]
  rfl

theorem execute_inDialect {i : Instruction} (h : m.dialect.AgreeOn d i.point?) (keys : Keypad)
    (address : UInt16) :
    (m.inDialect d).execute keys address i =
      ((m.execute keys address i).1, (m.execute keys address i).2.inDialect d) := by
  cases i with
  | skipIfEqual x nn | skipIfNotEqual x nn | skipIfSame x y | skipIfDifferent x y
  | skipIfPressed x | skipIfReleased x => exact congrArg (Prod.mk _) (skipIf_inDialect _)
  | alu x y op => exact congrArg (Prod.mk _) (alu_inDialect h x y)
  | jumpOffset x nnn => exact congrArg (Prod.mk _) (jumpOffset_inDialect (h _ rfl).symm x nnn)
  | waitForKey x => exact waitForKey_inDialect keys address x
  | addIndex x => exact congrArg (Prod.mk _) (addIndex_inDialect (h _ rfl).symm x)
  | storeRegisters x => exact congrArg (Prod.mk _) (storeRegisters_inDialect (h _ rfl).symm x)
  | loadRegisters x => exact congrArg (Prod.mk _) (loadRegisters_inDialect (h _ rfl).symm x)
  | _ => rfl

theorem cycle_inDialect {keys : Keypad}
    (h : m.dialect.AgreeOn d (m.cycle keys).1.instruction.point?) :
    (m.inDialect d).cycle keys = ((m.cycle keys).1, (m.cycle keys).2.inDialect d) := by
  have hexecute := execute_inDialect (m := m.advance) h keys m.registers.pc
  have hcycle : (m.inDialect d).cycle keys =
    (⟨m.registers.pc, m.nextOpcode,
      ((m.advance.inDialect d).execute keys m.registers.pc (.decode m.nextOpcode)).1⟩,
      ((m.advance.inDialect d).execute keys m.registers.pc (.decode m.nextOpcode)).2) := rfl
  rw [hcycle, ← instruction_cycle m keys, hexecute]
  rfl

end Execution

theorem dialect_after (m : Machine) (snapshots : List Keypad) :
    (m.after snapshots).dialect = m.dialect := by
  induction snapshots generalizing m with
  | nil => rfl
  | cons keys rest ih =>
    have hcycle : (m.cycle keys).2.dialect = m.advance.dialect :=
      dialect_execute m.advance keys m.registers.pc (.decode m.nextOpcode)
    rw [after_cons, ih, hcycle]
    rfl

-- A run that executes no instruction on whose point two dialects differ is the
-- same in both, cycle by cycle, and so are the machines, but for the dialect.
theorem lockstep_of_undecided_points (m : Machine) (d : Dialect) (snapshots : List Keypad)
    (h : ∀ point, m.dialect.setting point ≠ d.setting point →
      ∀ cycle ∈ m.cycles snapshots, cycle.instruction.point? ≠ some point) :
    Lockstep (fun m m' => m' = m.inDialect d) m (m.inDialect d) snapshots snapshots := by
  refine lockstep_of_steps rfl rfl fun k keys keys' hkeys hkeys' hrelated => ?_
  obtain rfl : keys = keys' := Option.some.inj (hkeys.symm.trans hkeys')
  rw [hrelated]
  have hmem : ((m.before snapshots k).cycle keys).1 ∈ m.cycles snapshots := by
    apply List.mem_of_getElem? (i := k)
    rw [getElem?_cycles, hkeys, Option.map_some]
  have hagree : (m.before snapshots k).dialect.AgreeOn d
      ((m.before snapshots k).cycle keys).1.instruction.point? := by
    intro point hpoint
    rw [before, dialect_after]
    exact Decidable.byContradiction fun hdiffer => h point hdiffer _ hmem hpoint
  have hcycle := cycle_inDialect hagree
  exact ⟨by rw [hcycle], by rw [hcycle]⟩

-- Shifts, logic, a fault, a wait, a random byte and a call. The two presets
-- agree on all of them, and differ on the other three points.
def commonGround : Machine :=
  { ofConfig { memorySize := 16, programAddress := 0, fontAddress := 0 }
      ⟨Vector.replicate 8 0, 0⟩ with
    memory := ⟨#[0x60, 0x05, 0x80, 0x06, 0x80, 0x11, 0xFF, 0xFF, 0xF1, 0x0A, 0xF1, 0x15,
      0xC2, 0x0F, 0x20, 0x00]⟩ }

def lateSeven : List Keypad :=
  List.replicate 5 .released ++ List.replicate 4 (Keypad.released.set 7 true)

theorem lockstep_of_undecided_points_commonGround :
    (commonGround.cycles lateSeven).map Cycle.instruction =
        [.load 0 5, .alu 0 0 .shiftRight, .alu 0 1 .or, .unknown 0xFFFF, .waitForKey 1,
          .waitForKey 1, .setDelay 1, .random 2 0x0F, .call 0] ∧
      Lockstep (fun m m' => m' = m.inDialect .modern) commonGround
        (commonGround.inDialect .modern) lateSeven lateSeven := by
  refine ⟨by decide, lockstep_of_undecided_points commonGround .modern _ fun point hdiffer => ?_⟩
  cases point with
  | shift | logic => exact absurd rfl hdiffer
  | jumpOffset | indexSum | transfer => decide

end Machine

end Chip8
