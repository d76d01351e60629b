import Chip8.Overflow

namespace Chip8

-- A read past the end gives zero and a write past the end is dropped, each byte
-- on its own.
structure Memory where
  bytes : Array UInt8
  deriving DecidableEq

namespace Memory

def blank (size : Nat) : Memory := ⟨Array.replicate size 0⟩

def new (size : Nat) : Except Overflow Memory := do
  return ⟨(← allocate 1 size 0).toArray⟩

def size (m : Memory) : Nat := m.bytes.size

def read (m : Memory) (address : Nat) : UInt8 := m.bytes[address]?.getD 0

def set (m : Memory) (address : Nat) (byte : UInt8) : Memory :=
  ⟨m.bytes.setIfInBounds address byte⟩

def write (m : Memory) (address : Nat) : List UInt8 → Memory
  | [] => m
  | byte :: rest => (m.set address byte).write (address + 1) rest

def readMany (m : Memory) (address count : Nat) : List UInt8 :=
  (List.range count).map fun offset => m.read (address + offset)

def fits (m : Memory) (address count : Nat) : Bool :=
  decide (address + count ≤ m.size)

theorem new_of_lt {size : Nat} (h : size < allocationLimit) : new size = .ok (blank size) := by
  rw [new, allocate_of_lt 0 (by rwa [Nat.one_mul])]
  rfl

theorem size_blank (n : Nat) : (blank n).size = n := by
  simp [blank, size]

theorem read_blank (n address : Nat) : (blank n).read address = 0 := by
  by_cases h : address < n <;> simp [blank, read, h]

@[simp] theorem size_set (m : Memory) (address : Nat) (byte : UInt8) :
    (m.set address byte).size = m.size := by
  simp [set, size]

theorem read_set (m : Memory) (address : Nat) (byte : UInt8) (target : Nat) :
    (m.set address byte).read target =
      if target = address ∧ target < m.size then byte else m.read target := by
  simp only [set, read, size, Array.getElem?_setIfInBounds]
  by_cases h : address = target
  · subst h
    by_cases hlt : address < m.bytes.size <;> simp [hlt]
  · simp [h, Ne.symm h]

theorem read_of_size_le (m : Memory) {address : Nat} (h : m.size ≤ address) :
    m.read address = 0 := by
  simp [read, Array.getElem?_eq_none h]

theorem ext_read {m m' : Memory} (hsize : m.size = m'.size)
    (hread : ∀ address, m.read address = m'.read address) : m = m' := by
  obtain ⟨bytes⟩ := m
  obtain ⟨bytes'⟩ := m'
  congr 1
  apply Array.ext hsize
  intro i hi hi'
  have hbyte := hread i
  simp only [read, Array.getElem?_eq_getElem hi, Array.getElem?_eq_getElem hi'] at hbyte
  exact hbyte

@[simp] theorem size_write (m : Memory) (address : Nat) (bytes : List UInt8) :
    (m.write address bytes).size = m.size := by
  induction bytes generalizing m address with
  | nil => rfl
  | cons byte rest ih => simp [write, ih]

theorem read_write_outside (m : Memory) (address : Nat) (bytes : List UInt8) {target : Nat}
    (h : target < address ∨ address + bytes.length ≤ target) :
    (m.write address bytes).read target = m.read target := by
  induction bytes generalizing m address with
  | nil => rfl
  | cons byte rest ih =>
    simp only [List.length_cons] at h
    rw [write, ih _ _ (by omega), read_set, if_neg (by omega)]

theorem read_write_inside (m : Memory) (address : Nat) (bytes : List UInt8) {k : Nat}
    (hk : k < bytes.length) (hsize : address + k < m.size) :
    (m.write address bytes).read (address + k) = bytes[k] := by
  induction bytes generalizing m address k with
  | nil => simp at hk
  | cons byte rest ih =>
    cases k with
    | zero =>
      -- the bytes behind the first one go to later addresses
      rw [write, read_write_outside _ _ _ (by omega), read_set, if_pos ⟨rfl, hsize⟩]
      rfl
    | succ k =>
      have hnext : address + (k + 1) = address + 1 + k := by omega
      rw [hnext] at hsize ⊢
      exact ih _ _ (by simpa using hk) (by simpa using hsize)

end Memory

end Chip8
