import Chip8.Emulator.Basic
import Chip8.Terminal.Keyboard

namespace Chip8

abbrev Frame := Array (Array Bool)

structure Session where
  emulator : Emulator
  -- The frame taken last, which is what the screen shows.
  frame : Frame
  status : String
  redraw : Bool
  quit : Bool
  -- When each key that is held was last pressed, in nanoseconds.
  pressTimes : Vector (Option Nat) 16

namespace Session

-- How long a press lasts without a repeat, in nanoseconds.
def releaseTimeout : Nat := 100000000

def start (emulator : Emulator) : Session where
  emulator
  frame := emulator.machine.display.rows
  status := "Running"
  redraw := true
  quit := false
  pressTimes := Vector.replicate 16 none

def isHeld (s : Session) (key : Nibble) : Bool := (s.pressTimes.get key).isSome

def press (s : Session) (now : Nat) (key : Nibble) : Session :=
  { s with
    pressTimes := s.pressTimes.set key.val (some now) key.val_lt
    emulator := s.emulator.setKey key true
    redraw := true }

def release (s : Session) (key : Nibble) : Session :=
  { s with
    pressTimes := s.pressTimes.set key.val none key.val_lt
    emulator := s.emulator.setKey key false
    redraw := true }

-- Events of keys outside the keypad change nothing, and a quit changes nothing
-- else.
def handleKey (s : Session) (now : Nat) (event : KeyEvent) : Session :=
  if event.quits then { s with quit := true }
  else
    match event.key.keypad?, event.action with
    | none, _ => s
    | some key, .press | some key, .held => s.press now key
    | some key, .release => s.release key

def releaseOverdue (s : Session) (overdue : Nibble → Bool) : Session :=
  Nibble.all.foldl (fun s key => if s.isHeld key && overdue key then s.release key else s) s

def isOverdue (s : Session) (now : Nat) (key : Nibble) : Bool :=
  (s.pressTimes.get key).any fun time => releaseTimeout < now - time

def expireKeys (s : Session) (now : Nat) : Session := s.releaseOverdue (s.isOverdue now)

def setStatus (s : Session) (status : String) : Session := { s with status }

def update (s : Session) (delta : Nat) : Report × Session :=
  let (report, emulator) := s.emulator.update delta
  (report, { s with emulator })

def takeFrame (s : Session) : Bool × Session :=
  match s.emulator.takeFrame with
  | (some display, emulator) => (true, { s with emulator, frame := display.rows })
  | (none, emulator) => (false, { s with emulator })

def advance (s : Session) (delta : Nat) : Report × Session :=
  let (report, s) := s.update delta
  let s := match report.fault? with
    | some fault => { s.setStatus fault.message with redraw := true }
    | none => s
  let (shown, s) := s.takeFrame
  (report, { s with redraw := s.redraw || shown })

inductive Event where
  | key (now : Nat) (event : KeyEvent)
  | expire (overdue : Nibble → Bool)
  | update (delta : Nat)
  | takeFrame
  | status (text : String)

def handle (s : Session) : Event → Session
  | .key now event => s.handleKey now event
  | .expire overdue => s.releaseOverdue overdue
  | .update delta => (s.update delta).2
  | .takeFrame => s.takeFrame.2
  | .status text => s.setStatus text

def after (s : Session) (events : List Event) : Session := events.foldl handle s

end Session

end Chip8
