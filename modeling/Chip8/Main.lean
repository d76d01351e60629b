import Chip8.CommandLine.Command
import Chip8.Terminal.Ansi
import Chip8.Terminal.Screen

namespace Chip8.Program

def readFile (path : String) : IO (Except ReadFailure (List UInt8)) := do
  try
    return .ok (← IO.FS.readBinFile path).toList
  catch
    | .noFileOrDirectory _ _ _ => return .error .notFound
    | .inappropriateType _ _ _ => return .error .isDirectory
    | _ => return .error .other

def terminalSize : IO (Nat × Nat) := do
  let size (name : String) (default : Nat) : IO Nat := do
    return (((← IO.getEnv name).bind fun text => text.toNat?).getD default)
  return (← size "COLUMNS" 83, ← size "LINES" 40)

-- The event of a byte from a terminal in raw mode.
def keyEvent (byte : UInt8) : KeyEvent :=
  if byte = 27 then ⟨.escape, .press, false⟩
  else if byte = 3 then ⟨.char 'c', .press, true⟩
  else ⟨.char (Char.ofNat byte.toNat), .press, false⟩

partial def listen (input : IO.FS.Stream) (typed : IO.Ref (List UInt8)) : IO Unit := do
  let bytes ← input.read 16
  unless bytes.isEmpty do
    typed.modify (· ++ bytes.toList)
    listen input typed

partial def present (session : Session) (typed : IO.Ref (List UInt8)) (log? : Option IO.FS.Handle)
    (size : Nat × Nat) (last : Nat) : IO Unit := do
  let now ← IO.monoNanosNow
  let (report, session) := session.advance (now - last)
  if let some log := log? then
    report.log.forM fun record => log.putStrLn record.line
  if session.redraw then
    match Screen.render session size.1 size.2 with
    | .ok lines => IO.print (Ansi.picture lines)
    | .error overflow => throw (IO.userError overflow.message)
    (← IO.getStdout).flush
  let session := { session with redraw := false }.expireKeys now
  let session := (← typed.swap []).foldl (fun s byte => s.handleKey now (keyEvent byte)) session
  unless session.quit do
    IO.sleep 1
    present session typed log? size now

def load (command : CommandLine.Command) : IO (Except LoadError (LogRecord × Emulator)) := do
  let font? ← command.fontPath?.mapM readFile
  let program ← readFile command.programPath
  let files : Emulator.Files := fun path =>
    match font? with
    | some font => if command.fontPath? = some path then font else program
    | none => program
  let unseeded := RandomKey.ofBytes (← IO.getRandomBytes 32).data
  return do
    let (font, program) ← Emulator.readImages files command.fontPath? command.programPath
    let emulator ← Emulator.new command.config unseeded font program
    return (Emulator.loadRecord command.config font program, emulator)

def run (command : CommandLine.Command) : IO UInt32 := do
  match ← load command with
  | .error error =>
    IO.eprintln s!"Failed to initialize emulator: {error.message}"
    return 1
  | .ok (record, emulator) =>
    let log? ← command.logFile?.mapM fun path => IO.FS.Handle.mk path .write
    if let some log := log? then
      log.putStrLn record.line
    let typed ← IO.mkRef []
    let _ ← IO.asTask (listen (← IO.getStdin) typed) .dedicated
    IO.print Ansi.enter
    present (.start emulator) typed log? (← terminalSize) (← IO.monoNanosNow)
    IO.print Ansi.leave
    return 0

end Chip8.Program

def main (arguments : List String) : IO UInt32 := do
  match Chip8.CommandLine.parse arguments with
  | .ok command => Chip8.Program.run command
  | .error .helpRequested =>
    IO.println Chip8.CommandLine.usage
    return 0
  | .error error =>
    IO.eprintln s!"error: {error.message}"
    return 2
