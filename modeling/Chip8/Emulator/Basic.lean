import Chip8.Log
import Chip8.Machine.Cycle

namespace Chip8

structure Emulator where
  machine : Machine
  keys : Keypad
  frameClock : Timer
  -- Set when the frame clock steps, until a frame is asked for.
  frameDue : Bool
  deriving DecidableEq

structure Report where
  cycle? : Option Cycle
  frameDue : Bool
  deriving DecidableEq, Repr

namespace Report

def executed (r : Report) : Bool := r.cycle?.isSome

def waiting (r : Report) : Bool := r.cycle?.any (·.outcome = .waiting)

def fault? (r : Report) : Option Fault := r.cycle?.bind Cycle.fault?

def log (r : Report) : List LogRecord :=
  match r.cycle? with
  | none => []
  | some cycle =>
    .executing cycle.address cycle.opcode cycle.instruction ::
      cycle.fault?.toList.map LogRecord.faulted

end Report

namespace Emulator

def checkFits (memory : Memory) (image : Image) (address : UInt16) (bytes : List UInt8) :
    Except LoadError Unit :=
  if memory.fits address.toNat bytes.length then .ok ()
  else .error (.imageTooLarge image address bytes.length (memory.size - address.toNat))

-- Writes the images. Where they overlap the program wins.
def withImages (machine : Machine) (config : Config) (font program : List UInt8) : Machine :=
  { machine with
    memory := (machine.memory.write config.fontAddress.toNat font).write
      config.programAddress.toNat program }

def new (config : Config) (unseeded : RandomKey) (font program : List UInt8) :
    Except LoadError Emulator := do
  let machine ← Machine.new config unseeded
  checkFits machine.memory .font config.fontAddress font
  checkFits machine.memory .program config.programAddress program
  return {
    machine := withImages machine config font program
    keys := .released
    frameClock := .ofFrequency config.frameRate
    frameDue := false }

def loadRecord (config : Config) (font program : List UInt8) : LogRecord :=
  .loaded font.length config.fontAddress program.length config.programAddress

abbrev Files := String → Except ReadFailure (List UInt8)

def readImage (files : Files) (image : Image) (path : String) : Except LoadError (List UInt8) :=
  (files path).mapError (.unreadable image path)

-- The images of a font and a program. Without a path for the font it is the
-- built-in one.
def readImages (files : Files) (fontPath? : Option String) (programPath : String) :
    Except LoadError (List UInt8 × List UInt8) := do
  let fontBytes ← match fontPath? with
    | some path => readImage files .font path
    | none => pure font
  return (fontBytes, ← readImage files .program programPath)

def ofFiles (files : Files) (config : Config) (unseeded : RandomKey) (fontPath? : Option String)
    (programPath : String) : Except LoadError Emulator := do
  let (fontBytes, program) ← readImages files fontPath? programPath
  new config unseeded fontBytes program

def update (e : Emulator) (delta : Nat) : Report × Emulator :=
  let (cycle?, machine) := e.machine.tick e.keys delta
  let frameDue := e.frameDue || e.frameClock.due delta
  (⟨cycle?, frameDue⟩, { e with machine, frameClock := e.frameClock.tick delta, frameDue })

-- Gives the display when a frame is due and something may have changed since
-- the last one.
def takeFrame (e : Emulator) : Option Display × Emulator :=
  if e.frameDue then
    let display := e.machine.display
    let shown := { e with frameDue := false, machine := { e.machine with display := display.settled } }
    (if display.changed then some display.settled else none, shown)
  else
    (none, e)

def setKey (e : Emulator) (key : Nibble) (down : Bool) : Emulator :=
  { e with keys := e.keys.set key down }

theorem snd_takeFrame (e : Emulator) :
    e.takeFrame.2 =
      { e with
        machine := { e.machine with display := e.takeFrame.2.machine.display }
        frameDue := false } := by
  obtain ⟨machine, keys, frameClock, frameDue⟩ := e
  cases frameDue <;> rfl

end Emulator

end Chip8
