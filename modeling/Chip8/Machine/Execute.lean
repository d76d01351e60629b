import Chip8.Error
import Chip8.Font
import Chip8.Instruction.Basic
import Chip8.Machine.Basic
import Chip8.Machine.Keypad

namespace Chip8

inductive Outcome where
  | done
  -- A wait found no key down and is repeated by the next cycle.
  | waiting
  | faulted (fault : Fault)
  deriving DecidableEq, Repr

def AluOp.eval (dialect : Dialect) (op : AluOp) (vx vy : UInt8) : UInt8 × Option Bool :=
  let logicFlag := if dialect.logicClearsFlag then some false else none
  let shifted := if dialect.shiftsVy then vy else vx
  match op with
  | .assign => (vy, none)
  | .or => (vx ||| vy, logicFlag)
  | .and => (vx &&& vy, logicFlag)
  | .xor => (vx ^^^ vy, logicFlag)
  | .add => (vx + vy, some (decide (256 ≤ vx.toNat + vy.toNat)))
  | .sub => (vx - vy, some (decide (vy ≤ vx)))
  | .subReverse => (vy - vx, some (decide (vx ≤ vy)))
  | .shiftRight => (shifted >>> 1, some (shifted.toNat.testBit 0))
  | .shiftLeft => (shifted <<< 1, some (shifted.toNat.testBit 7))

namespace Machine

def skipIf (m : Machine) (condition : Bool) : Machine :=
  if condition then m.jumpTo (m.registers.pc + 2) else m

-- The flag is written last, so that it wins when the destination is VF.
def alu (m : Machine) (x y : Nibble) (op : AluOp) : Machine :=
  match op.eval m.dialect (m.get x) (m.get y) with
  | (value, some flag) => (m.set x value).setFlag flag
  | (value, none) => m.set x value

def call (m : Machine) (address : UInt16) : Machine :=
  { m with stack := m.stack.push m.registers.pc }.jumpTo address

def ret (m : Machine) : Machine :=
  { m with stack := m.stack.pop.2 }.jumpTo m.stack.pop.1

def jumpOffset (m : Machine) (x : Nibble) (address : UInt16) : Machine :=
  let offset := if m.dialect.jumpsByVx then m.get x else m.get 0
  m.jumpTo (address + offset.toUInt16)

def takeRandom (m : Machine) (x : Nibble) (mask : UInt8) : Machine :=
  { m with random := m.random.next.2 }.set x (m.random.next.1 &&& mask)

def draw (m : Machine) (x y n : Nibble) : Machine :=
  let sprite := m.memory.readMany (m.indexAddress 0) n.val
  let (hit, display) := m.display.draw (m.get x).toNat (m.get y).toNat sprite
  { m with display }.setFlag hit

-- The count of the delay timer, which can exceed a byte, is capped.
def readDelay (m : Machine) (x : Nibble) : Machine :=
  m.set x (UInt8.ofNat (min m.delay.value.toNat 255))

-- A wait without a key down goes back to its own address.
def waitForKey (m : Machine) (keys : Keypad) (address : UInt16) (x : Nibble) : Outcome × Machine :=
  match keys.lowest? with
  | some key => (.done, m.set x key.toByte)
  | none => (.waiting, m.jumpTo address)

-- Only ever sets the flag: a sum inside the 12-bit address space leaves it as
-- it was.
def addIndex (m : Machine) (x : Nibble) : Machine :=
  let moved := m.setIndex (m.registers.i + (m.get x).toUInt16)
  if m.dialect.indexSumSetsFlag ∧ 0xFFF < m.registers.i.toNat + (m.get x).toNat then
    moved.setFlag true
  else
    moved

def loadGlyph (m : Machine) (x : Nibble) : Machine :=
  m.setIndex (m.fontAddress + UInt16.ofNat ((Nibble.low (m.get x)).val * glyphHeight))

def decimalDigits (value : UInt8) : List UInt8 := [value / 100, value / 10 % 10, value % 10]

def storeDecimal (m : Machine) (x : Nibble) : Machine :=
  { m with memory := m.memory.write (m.indexAddress 0) (decimalDigits (m.get x)) }

-- Where register `r` is stored or loaded next: at I when each transfer moves I,
-- otherwise at its distance from I.
def transferAddress (m : Machine) (r : Nibble) : Nat :=
  if m.dialect.transferMovesIndex then m.indexAddress 0 else m.indexAddress r.val

def moveIndex (m : Machine) : Machine :=
  if m.dialect.transferMovesIndex then m.setIndex (m.registers.i + 1) else m

def storeRegister (m : Machine) (r : Nibble) : Machine :=
  { m with memory := m.memory.set (m.transferAddress r) (m.get r) }.moveIndex

def loadRegister (m : Machine) (r : Nibble) : Machine :=
  (m.set r (m.memory.read (m.transferAddress r))).moveIndex

def storeRegisters (m : Machine) (last : Nibble) : Machine :=
  (Nibble.upTo last).foldl storeRegister m

def loadRegisters (m : Machine) (last : Nibble) : Machine :=
  (Nibble.upTo last).foldl loadRegister m

def execute (m : Machine) (keys : Keypad) (address : UInt16) :
    Instruction → Outcome × Machine
  | .clearDisplay => (.done, { m with display := m.display.clear })
  | .ret => (.done, m.ret)
  | .jump nnn => (.done, m.jumpTo nnn)
  | .call nnn => (.done, m.call nnn)
  | .skipIfEqual x nn => (.done, m.skipIf (m.get x == nn))
  | .skipIfNotEqual x nn => (.done, m.skipIf (m.get x != nn))
  | .skipIfSame x y => (.done, m.skipIf (m.get x == m.get y))
  | .load x nn => (.done, m.set x nn)
  | .add x nn => (.done, m.set x (m.get x + nn))
  | .alu x y op => (.done, m.alu x y op)
  | .skipIfDifferent x y => (.done, m.skipIf (m.get x != m.get y))
  | .loadIndex nnn => (.done, m.setIndex nnn)
  | .jumpOffset x nnn => (.done, m.jumpOffset x nnn)
  | .random x nn => (.done, m.takeRandom x nn)
  | .draw x y n => (.done, m.draw x y n)
  | .skipIfPressed x => (.done, m.skipIf (keys.isDown (Nibble.low (m.get x))))
  | .skipIfReleased x => (.done, m.skipIf (!keys.isDown (Nibble.low (m.get x))))
  | .readDelay x => (.done, m.readDelay x)
  | .waitForKey x => m.waitForKey keys address x
  | .setDelay x => (.done, { m with delay := m.delay.set (m.get x).toUInt32 })
  | .setSound x => (.done, { m with sound := m.get x })
  | .addIndex x => (.done, m.addIndex x)
  | .loadGlyph x => (.done, m.loadGlyph x)
  | .storeDecimal x => (.done, m.storeDecimal x)
  | .storeRegisters x => (.done, m.storeRegisters x)
  | .loadRegisters x => (.done, m.loadRegisters x)
  | .unknown word => (.faulted ⟨word, address⟩, m)

end Machine

end Chip8
