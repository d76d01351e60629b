import Chip8.Instruction.Basic

namespace Chip8

def AluOp.listing : AluOp → String
  | .assign => "Set"
  | .or => "Or"
  | .and => "And"
  | .xor => "Xor"
  | .add => "Add"
  | .sub => "Sub"
  | .shiftRight => "ShiftRight"
  | .subReverse => "SubReverse"
  | .shiftLeft => "ShiftLeft"

namespace Instruction

-- An operand of a trace, by the letters that stand for it in an instruction
-- word.
inductive Operand where
  | nibble (letter : Char) (value : Nibble)
  | byte (value : UInt8)
  | address (value : UInt16)
  | operation (op : AluOp)

def Operand.listing : Operand → String
  | .nibble letter value => s!"{letter.toString}: u4({value.val})"
  | .byte value => s!"nn: {value.toNat}"
  | .address value => s!"nnn: {value.toNat}"
  | .operation op => s!"op: {op.listing}"

def name : Instruction → String
  | clearDisplay => "ClearDisplay"
  | ret => "Return"
  | jump _ => "Jump"
  | call _ => "Call"
  | skipIfEqual _ _ => "SkipRegEqualImm"
  | skipIfNotEqual _ _ => "SkipRegNotEqualImm"
  | skipIfSame _ _ => "SkipRegEqualReg"
  | load _ _ => "SetRegImm"
  | add _ _ => "AddRegImm"
  | alu _ _ _ => "Alu"
  | skipIfDifferent _ _ => "SkipRegNotEqualReg"
  | loadIndex _ => "SetIndexImm"
  | jumpOffset _ _ => "JumpWithOffset"
  | random _ _ => "Random"
  | draw _ _ _ => "Draw"
  | skipIfPressed _ => "SkipIfPressed"
  | skipIfReleased _ => "SkipIfNotPressed"
  | readDelay _ => "ReadDelayTimer"
  | waitForKey _ => "WaitForKey"
  | setDelay _ => "SetDelayTimer"
  | setSound _ => "SetSoundTimer"
  | addIndex _ => "AddIndexReg"
  | loadGlyph _ => "FontChar"
  | storeDecimal _ => "Bcd"
  | storeRegisters _ => "StoreRegs"
  | loadRegisters _ => "LoadRegs"
  | unknown _ => "Unknown"

def operands : Instruction → List Operand
  | clearDisplay | ret | unknown _ => []
  | jump nnn | call nnn | loadIndex nnn => [.address nnn]
  | skipIfEqual x nn | skipIfNotEqual x nn | load x nn | add x nn | random x nn =>
    [.nibble 'x' x, .byte nn]
  | skipIfSame x y | skipIfDifferent x y => [.nibble 'x' x, .nibble 'y' y]
  | alu x y op => [.nibble 'x' x, .nibble 'y' y, .operation op]
  | jumpOffset x nnn => [.nibble 'x' x, .address nnn]
  | draw x y n => [.nibble 'x' x, .nibble 'y' y, .nibble 'n' n]
  | skipIfPressed x | skipIfReleased x | readDelay x | waitForKey x | setDelay x | setSound x
  | addIndex x | loadGlyph x | storeDecimal x | storeRegisters x | loadRegisters x =>
    [.nibble 'x' x]

-- An unknown word is listed as a number; other instructions list their operands
-- in braces, if they have any.
def listing (i : Instruction) : String :=
  match i with
  | unknown word => s!"{i.name}({word.toNat})"
  | _ =>
    match i.operands with
    | [] => i.name
    | operands => i.name ++ " \x7b " ++ ", ".intercalate (operands.map Operand.listing) ++ " \x7d"

end Instruction

end Chip8
