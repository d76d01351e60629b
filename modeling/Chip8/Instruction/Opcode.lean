import Chip8.Nibble

namespace Chip8

abbrev Opcode := UInt16

namespace Opcode

def ofBytes (high low : UInt8) : Opcode := UInt16.ofNat (high.toNat * 256 + low.toNat)

def family (w : Opcode) : Nibble := ⟨w.toNat / 4096 % 16, Nat.mod_lt _ (by decide)⟩

def x (w : Opcode) : Nibble := ⟨w.toNat / 256 % 16, Nat.mod_lt _ (by decide)⟩

def y (w : Opcode) : Nibble := ⟨w.toNat / 16 % 16, Nat.mod_lt _ (by decide)⟩

def n (w : Opcode) : Nibble := ⟨w.toNat % 16, Nat.mod_lt _ (by decide)⟩

def nn (w : Opcode) : UInt8 := UInt8.ofNat (w.toNat % 256)

def nnn (w : Opcode) : UInt16 := UInt16.ofNat (w.toNat % 4096)

end Opcode

end Chip8
