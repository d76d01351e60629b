import Chip8.CommandLine.Item
import Chip8.Config
import Chip8.Text.Numeral

namespace Chip8.CommandLine

structure Settings where
  program : Option String := none
  font : Option String := none
  dialect : Option Dialect := none
  instructionRate : Option UInt32 := none
  programAddress : Option UInt16 := none
  fontAddress : Option UInt16 := none
  seed : Option UInt64 := none
  logFile : Option String := none
  deriving DecidableEq, Repr

def dialectOfText? (text : String) : Option Dialect :=
  if text = "cosmac-vip" then some .cosmacVip
  else if text = "modern" then some .modern
  else none

-- A rate is a decimal number with an optional sign, so minus zero is one.
def rateOfText? (text : String) : Option UInt32 :=
  match Text.signed? text.toList with
  | some (.ofNat n) => if n < UInt32.size then some (UInt32.ofNat n) else none
  | _ => none

def addressNumber? : List Char → Option Nat
  | '0' :: 'x' :: rest => Text.unsigned? 16 rest
  | '0' :: 'X' :: rest => Text.unsigned? 16 rest
  | cs => Text.unsigned? 10 cs

-- An address is decimal, or hexadecimal behind 0x; either number may carry a
-- plus sign.
def addressOfText? (text : String) : Option UInt16 :=
  match addressNumber? text.toList with
  | some n => if n < UInt16.size then some (UInt16.ofNat n) else none
  | none => none

def seedOfText? (text : String) : Option UInt64 :=
  match Text.unsigned? 10 text.toList with
  | some n => if n < UInt64.size then some (UInt64.ofNat n) else none
  | none => none

def readPath (target : Target) (text : String) : Except ArgumentError String :=
  if text.isEmpty then .error (.emptyPath target) else .ok text

def readNumber {α : Type} (ofText? : String → Option α) (target : Target) (text : String) :
    Except ArgumentError α :=
  match ofText? text with
  | some value => .ok value
  | none => .error (.malformedNumber target text)

def readDialect (text : String) : Except ArgumentError Dialect :=
  match dialectOfText? text with
  | some dialect => .ok dialect
  | none => .error (.unknownDialect text)

namespace Settings

def has (s : Settings) : Target → Bool
  | .program => s.program.isSome
  | .option .font => s.font.isSome
  | .option .dialect => s.dialect.isSome
  | .option .instructionRate => s.instructionRate.isSome
  | .option .programAddress => s.programAddress.isSome
  | .option .fontAddress => s.fontAddress.isSome
  | .option .seed => s.seed.isSome
  | .option .logFile => s.logFile.isSome

def withText (s : Settings) (target : Target) (text : String) : Except ArgumentError Settings :=
  match target with
  | .program => do return { s with program := some (← readPath target text) }
  | .option .font => do return { s with font := some (← readPath target text) }
  | .option .dialect => do return { s with dialect := some (← readDialect text) }
  | .option .instructionRate => do
    return { s with instructionRate := some (← readNumber rateOfText? target text) }
  | .option .programAddress => do
    return { s with programAddress := some (← readNumber addressOfText? target text) }
  | .option .fontAddress => do
    return { s with fontAddress := some (← readNumber addressOfText? target text) }
  | .option .seed => do return { s with seed := some (← readNumber seedOfText? target text) }
  | .option .logFile => do return { s with logFile := some (← readPath target text) }

-- A missing value is an error before a repeated one, and that one before a bad
-- text.
def assign (s : Settings) (target : Target) (text? : Option String) :
    Except ArgumentError Settings :=
  match text? with
  | none => .error (.missingValue target)
  | some text => if s.has target then .error (.repeated target) else s.withText target text

def readItems (s : Settings) : List Item → Except ArgumentError Settings
  | [] => .ok s
  | .help :: _ => .error .helpRequested
  | .refused error :: _ => .error error
  | .value target text? attached :: rest =>
    match s.assign target text?, attached, rest with
    | .ok next, _, rest => next.readItems rest
    | .error _, false, .refused error :: _ => .error error
    | .error error, _, _ => .error error

def config (s : Settings) : Config :=
  { ({} : Config) with
    dialect := s.dialect.getD .cosmacVip
    instructionRate := s.instructionRate.getD 700
    programAddress := s.programAddress.getD 0x200
    fontAddress := s.fontAddress.getD 0x50
    seed := s.seed }

end Settings

end Chip8.CommandLine
