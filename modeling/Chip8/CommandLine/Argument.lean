namespace Chip8.CommandLine

inductive OptionName where
  | font
  | dialect
  | instructionRate
  | programAddress
  | fontAddress
  | seed
  | logFile
  deriving DecidableEq, Repr

namespace OptionName

def all : List OptionName :=
  [font, dialect, instructionRate, programAddress, fontAddress, seed, logFile]

def text : OptionName → String
  | font => "font"
  | dialect => "quirks"
  | instructionRate => "cpu-hz"
  | programAddress => "program-address"
  | fontAddress => "font-address"
  | seed => "seed"
  | logFile => "log-file"

def ofText? (text : String) : Option OptionName := all.find? fun o => o.text = text

end OptionName

inductive Target where
  | program
  | option (name : OptionName)
  deriving DecidableEq, Repr

inductive ArgumentError where
  | helpRequested
  | notUnderstood (argument : String)
  | missingValue (target : Target)
  | unexpectedValue (argument : String)
  | repeated (target : Target)
  | emptyPath (target : Target)
  | unknownDialect (text : String)
  | malformedNumber (target : Target) (text : String)
  | missingProgram
  deriving DecidableEq, Repr

def Target.name : Target → String
  | .program => "the program path"
  | .option name => "--" ++ name.text

def ArgumentError.message : ArgumentError → String
  | .helpRequested => "help was requested"
  | .notUnderstood argument => s!"unexpected argument {argument}"
  | .missingValue target => s!"a value is required for {target.name}"
  | .unexpectedValue argument => s!"no value is expected in {argument}"
  | .repeated target => s!"{target.name} cannot be used more than once"
  | .emptyPath target => s!"a path is required for {target.name}"
  | .unknownDialect text => s!"{text} is not one of cosmac-vip and modern"
  | .malformedNumber target text => s!"{text} is not a number for {target.name}"
  | .missingProgram => "a program path is required"

def usage : String := "\n".intercalate [
  "CHIP-8 emulator in the terminal.",
  "",
  "Usage: chip8 [OPTIONS] <PROGRAM_PATH>",
  "",
  "Keys 1-4, Q-R, A-F, Z-V map to the CHIP-8 hex keypad. Escape or Ctrl+C exits.",
  "",
  "  --font <FONT>                  Font image, instead of the built-in hex font",
  "  --quirks <QUIRKS>              cosmac-vip (default) or modern",
  "  --cpu-hz <RATE>                Instructions per second (default 700)",
  "  --program-address <ADDRESS>    Where the program is loaded (default 0x200)",
  "  --font-address <ADDRESS>       Where the font is loaded (default 0x50)",
  "  --seed <SEED>                  Seed for the random number instruction",
  "  --log-file <LOG_FILE>          Write logs to this file",
  "  -h, --help                     Print help"]

end Chip8.CommandLine
