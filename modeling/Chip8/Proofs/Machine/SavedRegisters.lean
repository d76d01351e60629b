import Chip8.Proofs.Machine.Transfer

namespace Chip8.Machine

-- The result of storing V0 to Vx. A register with its target past the end of
-- memory is dropped, and no byte changes for it.
structure SavesRegisters (m : Machine) (x : Nibble) (result : Outcome × Machine) : Prop where
  done : result.1 = .done
  saved : ∀ r ≤ x, m.target r < m.memory.size → result.2.memory.read (m.target r) = m.get r
  kept : ∀ a, (∀ r ≤ x, m.target r < m.memory.size → a ≠ m.target r) →
    result.2.memory.read a = m.memory.read a
  memorySize : result.2.memory.size = m.memory.size
  rest : result.2 =
    { m with
      memory := result.2.memory
      registers := { m.registers with i := m.movedIndex (x.val + 1) } }

-- The result of loading V0 to Vx. A register with its target past the end of
-- memory becomes zero.
structure FetchesRegisters (m : Machine) (x : Nibble) (result : Outcome × Machine) : Prop where
  done : result.1 = .done
  fetched : ∀ r ≤ x, result.2.get r =
    if m.target r < m.memory.size then m.memory.read (m.target r) else 0
  kept : ∀ r, x < r → result.2.get r = m.get r
  index : result.2.registers.i = m.movedIndex (x.val + 1)
  counter : result.2.registers.pc = m.registers.pc
  rest : result.2 = { m with registers := result.2.registers }

-- V0 to Vx, once stored, come back with a load by any machine that has found the
-- same memory and the same I. The two may differ in whether they move I.
def RestoresSaved (m : Machine) (x : Nibble) (saving loading : Bool) : Prop :=
  ∀ (keys keys' : Keypad) (address address' : UInt16) (m' : Machine),
    m'.memory = ((m.withTransfer saving).execute keys address (.storeRegisters x)).2.memory →
    m'.registers.i = m.registers.i →
    ∀ r ≤ x,
      ((m'.withTransfer loading).execute keys' address' (.loadRegisters x)).2.get r = m.get r

section Targets

variable {m m' : Machine} {x r : Nibble}

theorem target_le_indexAddress : m.target r ≤ m.indexAddress r.val := by
  unfold target
  split
  · exact Nat.mod_le _ _
  · exact Nat.le_refl _

theorem indexAddress_mono (hr : r ≤ x) : m.indexAddress r.val ≤ m.indexAddress x.val :=
  Nat.add_le_add_left hr _

theorem target_eq_of_index_eq (hindex : m'.registers.i = m.registers.i)
    (hsame : m.indexAddress r.val < 0x10000 ∨
      m'.dialect.transferMovesIndex = m.dialect.transferMovesIndex) :
    m'.target r = m.target r := by
  have haddress : m'.indexAddress r.val = m.indexAddress r.val := by
    rw [indexAddress, indexAddress, hindex]
  rcases hsame with hlt | hmoves
  · rw [target_of_lt (haddress ▸ hlt), target_of_lt hlt, haddress]
  · rw [target, target, hmoves, haddress]

theorem restoresSaved {saving loading : Bool} (hinside : m.indexAddress x.val < m.memory.size)
    (hsame : m.indexAddress x.val < 0x10000 ∨ loading = saving) :
    m.RestoresSaved x saving loading := by
  intro keys keys' address address' m' hmemory hindex r hr
  have haddress : m.indexAddress r.val ≤ m.indexAddress x.val := indexAddress_mono hr
  have htarget : (m'.withTransfer loading).target r = (m.withTransfer saving).target r :=
    target_eq_of_index_eq hindex (hsame.imp_left fun hlt => Nat.lt_of_le_of_lt haddress hlt)
  have hsize : (m.withTransfer saving).target r < m.memory.size := by
    have hle : (m.withTransfer saving).target r ≤ m.indexAddress r.val := target_le_indexAddress
    omega
  refine (get_loadRegisters r).trans ?_
  rw [if_pos hr, htarget]
  show m'.memory.read _ = m.get r
  rw [hmemory]
  exact read_storeRegisters_target (m := m.withTransfer saving) hr hsize

end Targets

section Saved

variable (m : Machine) (keys : Keypad) (address : UInt16) (x : Nibble)

theorem savesRegisters :
    m.SavesRegisters x (m.execute keys address (.storeRegisters x)) where
  done := rfl
  saved _ hr hsize := read_storeRegisters_target hr hsize
  kept a ha := by
    show (m.storeRegisters x).memory.read a = m.memory.read a
    by_cases hsize : a < m.memory.size
    · refine read_storeRegisters_other fun r hr heq => ?_
      exact ha r hr (heq ▸ hsize) heq
    · have hpast : m.memory.size ≤ a := Nat.le_of_not_lt hsize
      have hpast' : (m.storeRegisters x).memory.size ≤ a := by
        rwa [memorySize_storeRegisters]
      rw [Memory.read_of_size_le _ hpast, Memory.read_of_size_le _ hpast']
  memorySize := m.memorySize_storeRegisters x
  rest := by
    show m.storeRegisters x = { m with
      memory := (m.storeRegisters x).memory
      registers := { m.registers with i := m.movedIndex (x.val + 1) } }
    rw [← registers_storeRegisters]
    exact m.storeRegisters_eq x

theorem fetchesRegisters :
    m.FetchesRegisters x (m.execute keys address (.loadRegisters x)) where
  done := rfl
  fetched r hr := by
    refine (get_loadRegisters r).trans ?_
    rw [if_pos hr]
    split
    · rfl
    · rename_i hsize
      exact Memory.read_of_size_le _ (Nat.le_of_not_lt hsize)
  kept r hr := (get_loadRegisters r).trans (if_neg (Fin.not_le.mpr hr))
  index := index_loadRegisters
  counter := pc_loadRegisters
  rest := m.loadRegisters_eq x

-- A store saves V0 to Vx at their targets, and a load reads those targets. With
-- the last of them inside memory a load restores what a store has saved, whichever
-- of the two moves I; only past 16-bit addresses do both have to treat I alike.
theorem saved_registers_come_back :
    m.SavesRegisters x (m.execute keys address (.storeRegisters x)) ∧
    m.FetchesRegisters x (m.execute keys address (.loadRegisters x)) ∧
    (m.indexAddress x.val < m.memory.size →
      (m.memory.size ≤ 0x10000 → ∀ saving loading, m.RestoresSaved x saving loading) ∧
      ∀ moves, m.RestoresSaved x moves moves) := by
  refine ⟨m.savesRegisters keys address x, m.fetchesRegisters keys address x, fun hinside => ⟨?_, ?_⟩⟩
  · intro hsize saving loading
    exact restoresSaved hinside (.inl (Nat.lt_of_lt_of_le hinside hsize))
  · intro moves
    exact restoresSaved hinside (.inr rfl)

end Saved

def nearLastByte : Machine :=
  { ofConfig { memorySize := 0x10000 } ⟨Vector.replicate 8 0, 0⟩ with
    registers := ⟨#v[0xAA, 0xBB, 0xCC, 0, 0, 0, 0, 0, 0, 0, 0, 0, 0, 0, 0, 0], 0xFFFD, 0x208⟩ }

-- The store has moved I past the last address. Then I goes back, and every
-- register is zero.
def nearLastByteCleared : Machine :=
  { ((nearLastByte.withTransfer true).execute .released 0x206 (.storeRegisters 2)).2 with
    registers := { Registers.atAddress 0x208 with i := 0xFFFD } }

theorem saved_registers_come_back_nearLastByte :
    nearLastByte.indexAddress 2 < nearLastByte.memory.size ∧ nearLastByte.memory.size ≤ 0x10000 ∧
      ∀ r ≤ 2, ((nearLastByteCleared.withTransfer false).execute .released 0x208 (.loadRegisters 2)).2.get r =
        nearLastByte.get r := by
  have hsize : nearLastByte.memory.size = 0x10000 := Memory.size_blank _
  have hinside : nearLastByte.indexAddress 2 < nearLastByte.memory.size := by
    rw [hsize]
    decide
  obtain ⟨-, -, hrestores⟩ := saved_registers_come_back nearLastByte .released 0x206 2
  have hback := (hrestores hinside).1 (Nat.le_of_eq hsize) true false
  exact ⟨hinside, Nat.le_of_eq hsize, hback .released .released 0x206 0x208 nearLastByteCleared rfl rfl⟩

end Chip8.Machine
