import Chip8.Machine.Execute

namespace Chip8

structure Cycle where
  -- The program counter before the cycle, which may lie past the end of memory.
  address : UInt16
  opcode : Opcode
  outcome : Outcome
  deriving DecidableEq, Repr

def Cycle.instruction (c : Cycle) : Instruction := .decode c.opcode

def Cycle.fault? (c : Cycle) : Option Fault :=
  match c.outcome with
  | .faulted fault => some fault
  | _ => none

namespace Machine

def wordAddress (m : Machine) : Nat := m.registers.pc.toNat % m.memory.size

-- The word at the program counter. The last byte of memory pairs with the
-- first.
def nextOpcode (m : Machine) : Opcode :=
  .ofBytes (m.memory.read m.wordAddress) (m.memory.read ((m.wordAddress + 1) % m.memory.size))

def advance (m : Machine) : Machine :=
  m.jumpTo (UInt16.ofNat ((m.wordAddress + 2) % m.memory.size))

def cycle (m : Machine) (keys : Keypad) : Cycle × Machine :=
  let address := m.registers.pc
  let opcode := m.nextOpcode
  let (outcome, next) := m.advance.execute keys address (.decode opcode)
  (⟨address, opcode, outcome⟩, next)

-- Lets time pass: the delay timer always, and one cycle when the instruction
-- clock steps.
def tick (m : Machine) (keys : Keypad) (delta : Nat) : Option Cycle × Machine :=
  let due := m.clock.due delta
  let timed := { m with delay := m.delay.tick delta, clock := m.clock.tick delta }
  if due then
    let (cycle, next) := timed.cycle keys
    (some cycle, next)
  else
    (none, timed)

end Machine

end Chip8
