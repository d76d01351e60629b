import Chip8.Error
import Chip8.Instruction.Listing

namespace Chip8

inductive LogRecord where
  | loaded (fontSize : Nat) (fontAddress : UInt16) (programSize : Nat) (programAddress : UInt16)
  | executing (address : UInt16) (opcode : Opcode) (instruction : Instruction)
  | faulted (fault : Fault)
  deriving DecidableEq, Repr

inductive LogLevel where
  | debug
  | trace
  | warn
  deriving DecidableEq, Repr

def LogLevel.name : LogLevel → String
  | .debug => "DEBUG"
  | .trace => "TRACE"
  | .warn => "WARN"

namespace LogRecord

def level : LogRecord → LogLevel
  | loaded _ _ _ _ => .debug
  | executing _ _ _ => .trace
  | faulted _ => .warn

def message : LogRecord → String
  | loaded fontSize fontAddress programSize programAddress =>
    s!"Loaded {fontSize} byte font at {addressText fontAddress}" ++
      s!" and {programSize} byte program at {addressText programAddress}"
  | executing address opcode instruction =>
    Text.hex 3 address.toNat ++ ": " ++ Text.hex 4 opcode.toNat ++ " " ++ instruction.listing
  | faulted fault => fault.message

def line (r : LogRecord) : String := r.level.name ++ " " ++ r.message

end LogRecord

end Chip8
