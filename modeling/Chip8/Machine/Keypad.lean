import Chip8.Nibble

namespace Chip8

structure Keypad where
  down : Vector Bool 16
  deriving DecidableEq

namespace Keypad

def released : Keypad := ⟨Vector.replicate 16 false⟩

def isDown (k : Keypad) (key : Nibble) : Bool := k.down.get key

def set (k : Keypad) (key : Nibble) (down : Bool) : Keypad := ⟨k.down.set key.val down key.val_lt⟩

def lowest? (k : Keypad) : Option Nibble := Nibble.all.find? k.isDown

theorem isDown_released (key : Nibble) : released.isDown key = false := by
  exact Vector.getElem_replicate key.val_lt

theorem isDown_set (k : Keypad) (key : Nibble) (down : Bool) (other : Nibble) :
    (k.set key down).isDown other = if other = key then down else k.isDown other := by
  show (k.down.set key.val down key.val_lt)[other.val] =
    if other = key then down else k.down[other.val]
  simp only [Vector.getElem_set, Fin.ext_iff, eq_comm]

end Keypad

end Chip8
