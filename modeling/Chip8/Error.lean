import Chip8.Config
import Chip8.Instruction.Opcode
import Chip8.Text.Numeral

namespace Chip8

structure Fault where
  opcode : Opcode
  address : UInt16
  deriving DecidableEq, Repr

def addressText (address : UInt16) : String := "0x" ++ Text.hex 3 address.toNat

def opcodeText (opcode : Opcode) : String := "0x" ++ Text.hex 4 opcode.toNat

def Fault.message (f : Fault) : String :=
  s!"Unknown opcode {opcodeText f.opcode} at address {addressText f.address}"

inductive Image where
  | font
  | program
  deriving DecidableEq, Repr

def Image.name : Image → String
  | .font => "font"
  | .program => "program"

inductive ReadFailure where
  | notFound
  | isDirectory
  | other
  deriving DecidableEq, Repr

inductive LoadError where
  | invalidConfig (cause : ConfigError)
  | overflow (cause : Overflow)
  | imageTooLarge (image : Image) (address : UInt16) (size capacity : Nat)
  | unreadable (image : Image) (path : String) (cause : ReadFailure)
  deriving DecidableEq, Repr

def LoadError.message : LoadError → String
  | .invalidConfig cause => s!"Invalid configuration: {cause.reason}"
  | .overflow cause => cause.message
  | .imageTooLarge image address size capacity =>
    s!"{image.name} image is too large ({size} bytes), {capacity} bytes fit at {addressText address}"
  | .unreadable image path _ => s!"Failed to read {image.name} image from {path}"

end Chip8
