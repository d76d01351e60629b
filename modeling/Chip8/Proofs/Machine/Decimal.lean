import Chip8.Proofs.Machine.Transfer

namespace Chip8.Machine

structure Spells (hundreds tens ones value : UInt8) : Prop where
  hundreds_le : hundreds.toNat ≤ 2
  tens_le : tens.toNat ≤ 9
  ones_le : ones.toNat ≤ 9
  sum_eq : 100 * hundreds.toNat + 10 * tens.toNat + ones.toNat = value.toNat

-- The result of storing Vx in decimal. Each digit has an address of its own, which
-- does not wrap; a digit past the end of memory is dropped, and no other byte
-- changes.
structure StoresDecimal (m : Machine) (x : Nibble) (result : Outcome × Machine) : Prop where
  done : result.1 = .done
  digits : ∃ hundreds tens ones, Spells hundreds tens ones (m.get x) ∧
    (m.indexAddress 0 < m.memory.size → result.2.memory.read (m.indexAddress 0) = hundreds) ∧
    (m.indexAddress 1 < m.memory.size → result.2.memory.read (m.indexAddress 1) = tens) ∧
    (m.indexAddress 2 < m.memory.size → result.2.memory.read (m.indexAddress 2) = ones)
  kept : ∀ a, (∀ k < 3, a ≠ m.indexAddress k) → result.2.memory.read a = m.memory.read a
  memorySize : result.2.memory.size = m.memory.size
  rest : result.2 = { m with memory := result.2.memory }

-- The digits of Vx, once stored, are what V0, V1 and V2 hold after a transfer to Vz
-- by any machine that has found them untouched behind the same I. Only in a memory
-- larger than 16-bit addresses reach does it matter whether that machine moves I.
def RestoresDecimal (m : Machine) (x z : Nibble) : Prop :=
  ∀ (keys keys' : Keypad) (address address' : UInt16) (m' : Machine),
    m.memory.size ≤ 0x10000 ∨ m'.dialect.transferMovesIndex = false →
    m'.registers.i = m.registers.i →
    (∀ k < 3, m'.memory.read (m.indexAddress k) =
      (m.execute keys address (.storeDecimal x)).2.memory.read (m.indexAddress k)) →
    let loaded := (m'.execute keys' address' (.loadRegisters z)).2
    Spells (loaded.get 0) (loaded.get 1) (loaded.get 2) (m.get x)

section Digits

variable {m m' : Machine} {x z : Nibble}

theorem spells_digits (value : UInt8) :
    Spells (value / 100) (value / 10 % 10) (value % 10) value := by
  have hbyte := value.toNat_lt
  constructor <;> simp <;> omega

theorem read_storeDecimal {k : Nat} (hk : k < 3) (hsize : m.indexAddress k < m.memory.size) :
    (m.storeDecimal x).memory.read (m.indexAddress k) = (decimalDigits (m.get x)).get ⟨k, hk⟩ :=
  Memory.read_write_inside m.memory (m.indexAddress 0) (decimalDigits (m.get x)) hk hsize

theorem read_storeDecimal_other {a : Nat} (h : ∀ k < 3, a ≠ m.indexAddress k) :
    (m.storeDecimal x).memory.read a = m.memory.read a := by
  apply Memory.read_write_outside
  have hfirst := h 0 (by omega)
  have hsecond := h 1 (by omega)
  have hthird := h 2 (by omega)
  simp only [indexAddress, decimalDigits, List.length_cons, List.length_nil] at *
  omega

-- A transfer by another machine has the addresses of the digits, unless it moves I
-- past the last 16-bit address.
theorem get_loadRegisters_of_index_eq (hindex : m'.registers.i = m.registers.i) {r : Nibble}
    (hr : r ≤ z)
    (hreach : m.indexAddress r.val < 0x10000 ∨ m'.dialect.transferMovesIndex = false) :
    (m'.loadRegisters z).get r = m'.memory.read (m.indexAddress r.val) := by
  have haddress : m'.indexAddress r.val = m.indexAddress r.val := by
    rw [indexAddress, indexAddress, hindex]
  have htarget : m'.target r = m.indexAddress r.val := by
    rcases hreach with hlt | hfixed
    · rw [target_of_lt (haddress ▸ hlt), haddress]
    · simp [target, hfixed, haddress]
  rw [get_loadRegisters, if_pos hr, htarget]

theorem restoresDecimal (hsize : m.indexAddress 2 < m.memory.size) (hz : 2 ≤ z) :
    m.RestoresDecimal x z := by
  intro keys keys' address address' m' hlimit hindex hsame
  have hinside (k : Nat) (hk : k ≤ 2) : m.indexAddress k < m.memory.size := by
    unfold indexAddress at hsize ⊢
    omega
  have hread (r : Nibble) (hr : r ≤ 2) : (m'.loadRegisters z).get r =
      (m.storeDecimal x).memory.read (m.indexAddress r.val) := by
    have hle : r.val ≤ 2 := hr
    have hreach := hlimit.imp_left (Nat.lt_of_lt_of_le (hinside r.val hle))
    rw [get_loadRegisters_of_index_eq hindex (Fin.le_trans hr hz) hreach]
    exact hsame r.val (by omega)
  have hhundreds := (hread 0 (by decide)).trans
    (read_storeDecimal (x := x) (by omega) (hinside 0 (by omega)))
  have htens := (hread 1 (by decide)).trans
    (read_storeDecimal (x := x) (by omega) (hinside 1 (by omega)))
  have hones := (hread 2 (by decide)).trans
    (read_storeDecimal (x := x) (by omega) (hinside 2 (by omega)))
  show Spells ((m'.loadRegisters z).get 0) ((m'.loadRegisters z).get 1) ((m'.loadRegisters z).get 2)
    (m.get x)
  rw [hhundreds, htens, hones]
  exact spells_digits (m.get x)

end Digits

section Stored

variable (m : Machine) (keys : Keypad) (address : UInt16) (x : Nibble)

theorem storesDecimal : m.StoresDecimal x (m.execute keys address (.storeDecimal x)) where
  done := rfl
  digits := ⟨_, _, _, spells_digits (m.get x), read_storeDecimal (k := 0) (by omega),
    read_storeDecimal (k := 1) (by omega), read_storeDecimal (k := 2) (by omega)⟩
  kept _ h := read_storeDecimal_other h
  memorySize := Memory.size_write _ _ _
  rest := rfl

-- Fx33 stores the decimal digits of Vx behind I. With all three inside memory, a
-- transfer back to V2 or further leaves them in V0, V1 and V2, whether or not it
-- moves I, and also where Vx is one of the three.
theorem decimal_digits_come_back :
    m.StoresDecimal x (m.execute keys address (.storeDecimal x)) ∧
    (m.indexAddress 2 < m.memory.size → ∀ z, 2 ≤ z → m.RestoresDecimal x z) := by
  refine ⟨m.storesDecimal keys address x, ?_⟩
  intro hsize z hz
  exact restoresDecimal hsize hz

end Stored

-- A full memory of zeros, with I three bytes before its end. The digits are those
-- of V1, which the transfer overwrites, and it moves I on past the last address.
def digitsAtEnd : Machine :=
  { ofConfig { memorySize := 0x10000 } ⟨Vector.replicate 8 0, 0⟩ with
    registers := ⟨#v[0xAA, 0xFE, 0, 0, 0, 0, 0, 0, 0, 0, 0, 0, 0, 0, 0, 0], 0xFFFD, 0x208⟩ }

theorem decimal_digits_come_back_atEnd :
    digitsAtEnd.memory.size ≤ 0x10000 ∧ digitsAtEnd.indexAddress 2 < digitsAtEnd.memory.size ∧
      let stored := (digitsAtEnd.execute .released 0x206 (.storeDecimal 1)).2
      let loaded := (stored.execute .released 0x208 (.loadRegisters 0xF)).2
      Spells (loaded.get 0) (loaded.get 1) (loaded.get 2) 0xFE := by
  have hsize : digitsAtEnd.memory.size = 0x10000 := Memory.size_blank _
  have hinside : digitsAtEnd.indexAddress 2 < digitsAtEnd.memory.size := by
    rw [hsize]
    decide
  obtain ⟨-, hrestores⟩ := decimal_digits_come_back digitsAtEnd .released 0x206 1
  have hback := hrestores hinside 0xF (by decide) .released .released 0x206 0x208
  exact ⟨Nat.le_of_eq hsize, hinside, hback _ (.inl (Nat.le_of_eq hsize)) rfl fun _ _ => rfl⟩

end Chip8.Machine
