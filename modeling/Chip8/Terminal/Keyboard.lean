import Chip8.Nibble

namespace Chip8

inductive Key where
  | char (c : Char)
  | escape
  | other
  deriving DecidableEq, Repr

inductive KeyAction where
  | press
  | held
  | release
  deriving DecidableEq, Repr

structure KeyEvent where
  key : Key
  action : KeyAction
  control : Bool
  deriving DecidableEq, Repr

-- The rows of the keypad, each key with the character in the same place of the
-- keyboard.
def keypadRows : List (List (Nibble × Char)) := [
  [(0x1, '1'), (0x2, '2'), (0x3, '3'), (0xC, '4')],
  [(0x4, 'q'), (0x5, 'w'), (0x6, 'e'), (0xD, 'r')],
  [(0x7, 'a'), (0x8, 's'), (0x9, 'd'), (0xE, 'f')],
  [(0xA, 'z'), (0x0, 'x'), (0xB, 'c'), (0xF, 'v')]
]

-- The keypad key of a keyboard key. Only ASCII letters are folded to lower
-- case.
def Key.keypad? : Key → Option Nibble
  | .char c => (keypadRows.flatten.find? fun (_, mapped) => mapped = c.toLower).map Prod.fst
  | _ => none

-- Escape and Control with a lower-case c leave the program.
def KeyEvent.quits (e : KeyEvent) : Bool :=
  e.key = .escape || (e.key = .char 'c' && e.control)

end Chip8
