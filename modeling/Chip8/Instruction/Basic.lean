import Chip8.Instruction.Opcode

namespace Chip8

inductive AluOp where
  | assign
  | or
  | and
  | xor
  | add
  | sub
  | shiftRight
  | subReverse
  | shiftLeft
  deriving DecidableEq, Repr

-- The last nibble N of 8xyN.
def AluOp.code : AluOp → Nibble
  | .assign => 0x0
  | .or => 0x1
  | .and => 0x2
  | .xor => 0x3
  | .add => 0x4
  | .sub => 0x5
  | .shiftRight => 0x6
  | .subReverse => 0x7
  | .shiftLeft => 0xE

def AluOp.ofCode? (code : Nibble) : Option AluOp :=
  match code.val with
  | 0x0 => some .assign
  | 0x1 => some .or
  | 0x2 => some .and
  | 0x3 => some .xor
  | 0x4 => some .add
  | 0x5 => some .sub
  | 0x6 => some .shiftRight
  | 0x7 => some .subReverse
  | 0xE => some .shiftLeft
  | _ => none

inductive Instruction where
  | clearDisplay
  | ret
  | jump (nnn : UInt16)
  | call (nnn : UInt16)
  | skipIfEqual (x : Nibble) (nn : UInt8)
  | skipIfNotEqual (x : Nibble) (nn : UInt8)
  | skipIfSame (x y : Nibble)
  | load (x : Nibble) (nn : UInt8)
  | add (x : Nibble) (nn : UInt8)
  | alu (x y : Nibble) (op : AluOp)
  | skipIfDifferent (x y : Nibble)
  | loadIndex (nnn : UInt16)
  -- Jump to nnn plus a register: Bnnn, where x is the top nibble of nnn.
  | jumpOffset (x : Nibble) (nnn : UInt16)
  | random (x : Nibble) (nn : UInt8)
  | draw (x y n : Nibble)
  | skipIfPressed (x : Nibble)
  | skipIfReleased (x : Nibble)
  | readDelay (x : Nibble)
  | waitForKey (x : Nibble)
  | setDelay (x : Nibble)
  | setSound (x : Nibble)
  | addIndex (x : Nibble)
  | loadGlyph (x : Nibble)
  | storeDecimal (x : Nibble)
  | storeRegisters (x : Nibble)
  | loadRegisters (x : Nibble)
  | unknown (word : Opcode)
  deriving DecidableEq, Repr

namespace Instruction

def ofKeyWord (w : Opcode) : Instruction :=
  match w.nn.toNat with
  | 0x9E => .skipIfPressed w.x
  | 0xA1 => .skipIfReleased w.x
  | _ => .unknown w

def ofSystemWord (w : Opcode) : Instruction :=
  match w.nn.toNat with
  | 0x07 => .readDelay w.x
  | 0x0A => .waitForKey w.x
  | 0x15 => .setDelay w.x
  | 0x18 => .setSound w.x
  | 0x1E => .addIndex w.x
  | 0x29 => .loadGlyph w.x
  | 0x33 => .storeDecimal w.x
  | 0x55 => .storeRegisters w.x
  | 0x65 => .loadRegisters w.x
  | _ => .unknown w

def decode (w : Opcode) : Instruction :=
  match w.family.val with
  | 0x0 => if w = 0x00E0 then .clearDisplay else if w = 0x00EE then .ret else .unknown w
  | 0x1 => .jump w.nnn
  | 0x2 => .call w.nnn
  | 0x3 => .skipIfEqual w.x w.nn
  | 0x4 => .skipIfNotEqual w.x w.nn
  | 0x5 => if w.n = 0 then .skipIfSame w.x w.y else .unknown w
  | 0x6 => .load w.x w.nn
  | 0x7 => .add w.x w.nn
  | 0x8 =>
    match AluOp.ofCode? w.n with
    | some op => .alu w.x w.y op
    | none => .unknown w
  | 0x9 => if w.n = 0 then .skipIfDifferent w.x w.y else .unknown w
  | 0xA => .loadIndex w.nnn
  | 0xB => .jumpOffset w.x w.nnn
  | 0xC => .random w.x w.nn
  | 0xD => .draw w.x w.y w.n
  | 0xE => ofKeyWord w
  | _ => ofSystemWord w

def wordXNN (family : Nat) (x : Nibble) (nn : Nat) : Opcode :=
  UInt16.ofNat (family * 4096 + x.val * 256 + nn)

def wordXYN (family : Nat) (x y n : Nibble) : Opcode :=
  UInt16.ofNat (family * 4096 + x.val * 256 + y.val * 16 + n.val)

def wordNNN (family : Nat) (nnn : UInt16) : Opcode :=
  UInt16.ofNat (family * 4096 + nnn.toNat)

def encode : Instruction → Opcode
  | clearDisplay => 0x00E0
  | ret => 0x00EE
  | jump nnn => wordNNN 0x1 nnn
  | call nnn => wordNNN 0x2 nnn
  | skipIfEqual x nn => wordXNN 0x3 x nn.toNat
  | skipIfNotEqual x nn => wordXNN 0x4 x nn.toNat
  | skipIfSame x y => wordXYN 0x5 x y 0
  | load x nn => wordXNN 0x6 x nn.toNat
  | add x nn => wordXNN 0x7 x nn.toNat
  | alu x y op => wordXYN 0x8 x y op.code
  | skipIfDifferent x y => wordXYN 0x9 x y 0
  | loadIndex nnn => wordNNN 0xA nnn
  | jumpOffset _ nnn => wordNNN 0xB nnn
  | random x nn => wordXNN 0xC x nn.toNat
  | draw x y n => wordXYN 0xD x y n
  | skipIfPressed x => wordXNN 0xE x 0x9E
  | skipIfReleased x => wordXNN 0xE x 0xA1
  | readDelay x => wordXNN 0xF x 0x07
  | waitForKey x => wordXNN 0xF x 0x0A
  | setDelay x => wordXNN 0xF x 0x15
  | setSound x => wordXNN 0xF x 0x18
  | addIndex x => wordXNN 0xF x 0x1E
  | loadGlyph x => wordXNN 0xF x 0x29
  | storeDecimal x => wordXNN 0xF x 0x33
  | storeRegisters x => wordXNN 0xF x 0x55
  | loadRegisters x => wordXNN 0xF x 0x65
  | unknown w => w

end Instruction

end Chip8
