import Chip8.Error
import Chip8.Machine.CallStack
import Chip8.Machine.Display
import Chip8.Machine.Memory
import Chip8.Machine.RandomStream
import Chip8.Machine.Registers
import Chip8.Machine.Timer

namespace Chip8

structure Machine where
  memory : Memory
  display : Display
  stack : CallStack
  registers : Registers
  -- Counts down for the program, at a rate of its own.
  delay : Timer
  -- Each step of this clock executes one instruction.
  clock : Timer
  sound : UInt8
  dialect : Dialect
  fontAddress : UInt16
  random : RandomStream
  deriving DecidableEq

namespace Machine

def start (c : Config) (random : RandomStream) (memory : Memory) (display : Display)
    (stack : CallStack) : Machine where
  memory
  display
  stack
  registers := .atAddress c.programAddress
  delay := .ofFrequency c.delayRate
  clock := .ofFrequency c.instructionRate
  sound := 0
  dialect := c.dialect
  fontAddress := c.fontAddress
  random

-- The random stream of a configuration. The key stands in where there is no
-- seed.
def randomStream (c : Config) (unseeded : RandomKey) : RandomStream :=
  .ofKey ((c.seed.map RandomKey.ofSeed).getD unseeded)

def new (c : Config) (unseeded : RandomKey) : Except LoadError Machine := do
  c.validate.mapError .invalidConfig
  let memory ← (Memory.new c.memorySize).mapError .overflow
  let display ← (Display.new c.width c.height).mapError .overflow
  let stack ← (CallStack.new c.stackSize).mapError .overflow
  return start c (randomStream c unseeded) memory display stack

-- What `new` gives when nothing goes wrong.
def ofConfig (c : Config) (random : RandomStream) : Machine :=
  start c random (.blank c.memorySize) (.blank c.width c.height) (.empty c.stackSize)

def get (m : Machine) (x : Nibble) : UInt8 := m.registers.get x

def set (m : Machine) (x : Nibble) (value : UInt8) : Machine :=
  { m with registers := m.registers.set x value }

def setFlag (m : Machine) (flag : Bool) : Machine :=
  { m with registers := m.registers.setFlag flag }

def setIndex (m : Machine) (address : UInt16) : Machine :=
  { m with registers := { m.registers with i := address } }

def jumpTo (m : Machine) (address : UInt16) : Machine :=
  { m with registers := { m.registers with pc := address } }

-- The address `offset` bytes behind I. It does not wrap at 16 bits.
def indexAddress (m : Machine) (offset : Nat) : Nat := m.registers.i.toNat + offset

end Machine

end Chip8
