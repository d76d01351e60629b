import Chip8.CommandLine.Settings

namespace Chip8.CommandLine

structure Command where
  programPath : String
  fontPath? : Option String
  logFile? : Option String
  config : Config
  deriving DecidableEq, Repr

def parse (arguments : List String) : Except ArgumentError Command := do
  let s ← Settings.readItems {} (scan none false arguments)
  match s.program with
  | none => .error .missingProgram
  | some programPath => .ok ⟨programPath, s.font, s.logFile, s.config⟩

end Chip8.CommandLine
