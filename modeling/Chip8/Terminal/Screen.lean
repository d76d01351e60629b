import Chip8.Terminal.Canvas
import Chip8.Terminal.Session
import Chip8.Text.Numeral

namespace Chip8.Screen

def sideWidth : UInt16 := 17

def statusHeight : UInt16 := 3

-- The size of the display panel, border included, and the least size of the
-- screen. Sizes are 16-bit words, as terminals count them, and wrap here; `render`
-- refuses what wraps in a sum.
def displayWidth (d : Display) : UInt16 := UInt16.ofNat d.width + 2

def displayHeight (d : Display) : UInt16 := UInt16.ofNat d.height + 2

def minWidth (d : Display) : UInt16 := displayWidth d + sideWidth

def minHeight (d : Display) : UInt16 := displayHeight d + statusHeight

def countsSizes (d : Display) : Bool :=
  (UInt16.ofNat d.width).toNat + 2 + sideWidth.toNat < 0x10000 &&
    (UInt16.ofNat d.height).toNat + 2 + statusHeight.toNat < 0x10000

def tooSmall (d : Display) (width height : Nat) : Bool :=
  width < (minWidth d).toNat || height < (minHeight d).toNat

structure Layout where
  display : Area
  status : Area
  registers : Area
  keypad : Area
  stack : Area

-- The lengths of two panels side by side. They get what they ask for if there is
-- room for both. If not, they share the room as evenly as they can, neither
-- with more than it asks for, and an odd cell goes to the first.
def share (room first second : Nat) : Nat × Nat :=
  if first + second ≤ room then (first, second)
  else
    let second := max (room - first) (min second (room / 2))
    (room - second, second)

-- The display, the status, the registers and the keypad ask for fixed lengths,
-- from the left and from the top. The stack takes the rest of its column, and
-- keeps its three rows when the two panels above it have to share what is left.
def layout (d : Display) (width height : Nat) : Layout :=
  let (leftWidth, rightWidth) := share width (displayWidth d).toNat sideWidth.toNat
  let (displayHeight, statusHeight) := share height (displayHeight d).toNat statusHeight.toNat
  let (registersHeight, keypadHeight) := share (height - 3) 13 6
  let above := registersHeight + keypadHeight
  { display := ⟨0, 0, leftWidth, displayHeight⟩
    status := ⟨0, displayHeight, leftWidth, statusHeight⟩
    registers := ⟨leftWidth, 0, rightWidth, registersHeight⟩
    keypad := ⟨leftWidth, registersHeight, rightWidth, keypadHeight⟩
    stack := ⟨leftWidth, above, rightWidth, height - above⟩ }

def pixelCell (lit : Bool) : Cell where
  symbol := if lit then '█' else ' '
  style := { foreground := .green }

def displayPanel (frame : Frame) (area : Area) : Panel where
  area
  title := " chippy "
  lines := frame.map fun row => row.map pixelCell

def statusPanel (status : String) (area : Area) : Panel where
  area
  title := " Status "
  lines := ((status.splitOn "\n").map fun text => Line.ofText (area.width - 2) text).toArray

-- A line of the register panel for a register and the one eight above it.
def registerPair (r : Registers) (x : Nibble) : String :=
  let value (x : Nibble) : String := "V" ++ Text.hex 1 x.val ++ ": " ++ Text.hex 2 (r.get x).toNat
  value x ++ "   " ++ value (x + 8)

def registerTexts (m : Machine) : List String :=
  let r := m.registers
  ["PC: " ++ Text.hex 3 r.pc.toNat ++ "  I: " ++ Text.hex 3 r.i.toNat,
    "DT: " ++ Text.hex 2 m.delay.value.toNat ++ "   ST: " ++ Text.hex 2 m.sound.toNat,
    ""] ++ (Nibble.upTo 7).map (registerPair r)

def registersPanel (m : Machine) (area : Area) : Panel where
  area
  title := " Registers "
  lines := ((registerTexts m).map fun text => Line.ofString text).toArray

def keyCells (keys : Keypad) (key : Nibble) : Line :=
  Line.ofString (" " ++ Text.hex 1 key.val ++ " ")
    (if keys.isDown key then { foreground := .black, background := .green } else {})

def keypadPanel (keys : Keypad) (area : Area) : Panel where
  area
  title := " Keypad "
  alignment := .centre
  lines := (keypadRows.map fun row =>
    (row.map fun (key, _) => (keyCells keys key).toList).flatten.toArray).toArray

-- The lines of the stack panel, innermost entry first. When there are more
-- entries than rows, the last row counts those that are left out.
def stackLines (live : List UInt16) (height : Nat) : List Line :=
  let rows := max (height - 2) 1
  let entries := (live.reverse.take rows).map fun address => Line.ofString (Text.hex 3 address.toNat)
  let hidden := live.length - rows
  if 0 < hidden then
    entries.dropLast ++ [Line.ofString s!"+{hidden + 1} more" { dim := true }]
  else
    entries

def stackPanel (stack : CallStack) (area : Area) : Panel where
  area
  title := s!" Stack {stack.depth}/{stack.capacity} "
  alignment := .centre
  lines := (stackLines stack.live area.height).toArray

def tooSmallPanel (d : Display) (area : Area) : Panel where
  area
  alignment := .centre
  base := { foreground := .red }
  lines := #[Line.ofString s!"Terminal is too small ({minWidth d}x{minHeight d} min)"
    { foreground := .red }]

def panels (s : Session) (width height : Nat) : List Panel :=
  let machine := s.emulator.machine
  if tooSmall machine.display width height then
    [tooSmallPanel machine.display ⟨0, 0, width, height⟩]
  else
    let areas := layout machine.display width height
    [displayPanel s.frame areas.display, statusPanel s.status areas.status,
      registersPanel machine areas.registers, keypadPanel s.emulator.keys areas.keypad,
      stackPanel machine.stack areas.stack]

def draw (s : Session) (width height : Nat) : Array Line :=
  picture (panels s width height) width height

def render (s : Session) (width height : Nat) : Except Overflow (Array Line) :=
  if countsSizes s.emulator.machine.display then .ok (draw s width height) else .error .addition

end Chip8.Screen
