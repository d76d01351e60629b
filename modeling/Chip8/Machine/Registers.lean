import Chip8.Nibble

namespace Chip8

structure Registers where
  v : Vector UInt8 16
  i : UInt16
  pc : UInt16
  deriving DecidableEq

namespace Registers

def atAddress (pc : UInt16) : Registers := ⟨Vector.replicate 16 0, 0, pc⟩

def get (r : Registers) (x : Nibble) : UInt8 := r.v.get x

def set (r : Registers) (x : Nibble) (value : UInt8) : Registers :=
  { r with v := r.v.set x.val value x.val_lt }

-- VF doubles as the flag of the instructions that produce one.
def flagRegister : Nibble := 0xF

def setFlag (r : Registers) (flag : Bool) : Registers :=
  r.set flagRegister (if flag then 1 else 0)

theorem get_set (r : Registers) (x : Nibble) (value : UInt8) (y : Nibble) :
    (r.set x value).get y = if y = x then value else r.get y := by
  show (r.v.set x.val value x.val_lt)[y.val] = if y = x then value else r.v[y.val]
  simp only [Vector.getElem_set, Fin.ext_iff, eq_comm]

theorem ext_get {r r' : Registers} (hget : ∀ x, r.get x = r'.get x) (hi : r.i = r'.i)
    (hpc : r.pc = r'.pc) : r = r' := by
  obtain ⟨v, i, pc⟩ := r
  obtain ⟨v', i', pc'⟩ := r'
  obtain rfl : v = v' := Vector.ext fun x hx => hget ⟨x, hx⟩
  obtain rfl : i = i' := hi
  obtain rfl : pc = pc' := hpc
  rfl

@[simp] theorem pc_set (r : Registers) (x : Nibble) (value : UInt8) :
    (r.set x value).pc = r.pc := rfl

end Registers

end Chip8
