import Chip8.Proofs.Checked.Operation

namespace Chip8.Memory

def setChecked (address : Nat) (m : Memory) (byte : UInt8 × Nat) : Memory :=
  match Checked.add wordLimit address byte.2 with
  | .ok target => m.set target byte.1
  | .error _ => m

def writeChecked (m : Memory) (address : Nat) (bytes : List UInt8) : Memory :=
  bytes.zipIdx.foldl (setChecked address) m

def fitsChecked (m : Memory) (address count : Nat) : Bool :=
  match Checked.add wordLimit address count with
  | .ok stop => decide (stop ≤ m.size)
  | .error _ => false

-- What a write leaves behind: its bytes where there is memory for them, and all
-- the others as they were.
structure Written (m after : Memory) (address : Nat) (bytes : List UInt8) : Prop where
  size_eq : after.size = m.size
  read_inside : ∀ target, target < m.size →
    ∀ h : address ≤ target ∧ target < address + bytes.length,
      after.read target = bytes[target - address]
  read_outside : ∀ target, target < m.size → target < address ∨ address + bytes.length ≤ target →
    after.read target = m.read target
  read_past : ∀ target, m.size ≤ target → after.read target = 0

-- Byte `k` of a write is dropped: whatever it is, the memory becomes the same.
def Drops (m : Memory) (address : Nat) (bytes : List UInt8) (k : Nat) : Prop :=
  ∀ byte, m.write address (bytes.set k byte) = m.write address bytes

section Counted

variable {m : Memory}

theorem set_of_size_le {address : Nat} (h : m.size ≤ address) (byte : UInt8) :
    m.set address byte = m := by
  rw [set, Array.setIfInBounds_eq_of_size_le h]

theorem setChecked_eq (hcounted : m.size ≤ wordLimit) (address : Nat) (byte : UInt8)
    (offset : Nat) : setChecked address m (byte, offset) = m.set (address + offset) byte := by
  unfold setChecked Checked.add
  split
  · rename_i hadd
    split at hadd
    · cases hadd
      rfl
    · cases hadd
  · rename_i hadd
    split at hadd
    · cases hadd
    · rw [set_of_size_le (by omega)]

theorem foldl_setChecked (hcounted : m.size ≤ wordLimit) (address : Nat)
    (bytes : List UInt8) (start : Nat) :
    (bytes.zipIdx start).foldl (setChecked address) m = m.write (address + start) bytes := by
  induction bytes generalizing m start with
  | nil => rfl
  | cons byte rest ih =>
    rw [List.zipIdx_cons, List.foldl_cons, setChecked_eq hcounted, write, Nat.add_assoc]
    exact ih (by rwa [size_set]) (start + 1)

theorem writeChecked_eq (hcounted : m.size ≤ wordLimit) (address : Nat)
    (bytes : List UInt8) : m.writeChecked address bytes = m.write address bytes :=
  foldl_setChecked hcounted address bytes 0

theorem fitsChecked_eq (hcounted : m.size < wordLimit) (address count : Nat) :
    m.fitsChecked address count = m.fits address count := by
  unfold fitsChecked Checked.add fits
  split
  · rename_i hadd
    split at hadd
    · cases hadd
      rfl
    · cases hadd
  · rename_i hadd
    split at hadd
    · cases hadd
    · exact (decide_eq_false (by omega)).symm

end Counted

section Written

variable (m : Memory) (address : Nat) (bytes : List UInt8)

theorem written_write : m.Written (m.write address bytes) address bytes := by
  refine ⟨m.size_write address bytes, ?_, ?_, ?_⟩
  · intro target hsize h
    have hsum : address + (target - address) = target := by omega
    have hread := m.read_write_inside address bytes (k := target - address) (by omega) (by omega)
    rwa [hsum] at hread
  · intro target _ h
    exact m.read_write_outside address bytes h
  · intro target h
    exact read_of_size_le _ (by rwa [size_write])

variable {address bytes} {k : Nat}

theorem read_write_offset (hk : k < bytes.length) :
    (m.write address bytes).read (address + k) = if address + k < m.size then bytes[k] else 0 := by
  split
  · rename_i hsize
    exact m.read_write_inside address bytes hk hsize
  · rename_i hsize
    exact (m.written_write address bytes).read_past _ (by omega)

theorem drops_iff (hk : k < bytes.length) : m.Drops address bytes k ↔ m.size ≤ address + k := by
  constructor
  · intro hdrops
    refine Nat.le_of_not_lt fun hsize => ?_
    have hread := congrArg (read · (address + k)) (hdrops (bytes[k] + 1))
    rw [read_write_offset m (by rwa [List.length_set]), read_write_offset m hk, if_pos hsize,
      if_pos hsize, List.getElem_set_self] at hread
    exact absurd hread (by simp)
  · intro hsize byte
    refine ext_read (by rw [size_write, size_write]) fun target => ?_
    have hset := m.written_write address (bytes.set k byte)
    have hplain := m.written_write address bytes
    by_cases hpast : m.size ≤ target
    · rw [hset.read_past target hpast, hplain.read_past target hpast]
    by_cases hinside : address ≤ target ∧ target < address + bytes.length
    · rw [hset.read_inside target (by omega) (by rwa [List.length_set]),
        hplain.read_inside target (by omega) hinside, List.getElem_set_ne (by omega)]
    · rw [hset.read_outside target (by omega) (by rw [List.length_set]; omega),
        hplain.read_outside target (by omega) (by omega)]

theorem fits_iff_keeps (hne : bytes ≠ []) :
    m.fits address bytes.length = true ↔ ∀ k < bytes.length, ¬ m.Drops address bytes k := by
  have hpos := List.length_pos_iff.mpr hne
  rw [fits, decide_eq_true_eq]
  constructor
  · intro hfits k hk
    rw [m.drops_iff hk]
    omega
  · intro hkeeps
    -- the last byte is the first to be dropped
    have hlast := hkeeps (bytes.length - 1) (by omega)
    rw [m.drops_iff (by omega)] at hlast
    omega

-- What is past the end reads as zero, which a byte that was written may be.
theorem readMany_write_eq_iff :
    (m.write address bytes).readMany address bytes.length = bytes ↔
      ∀ k (hk : k < bytes.length), address + k < m.size ∨ bytes[k] = 0 := by
  have hlength : ((m.write address bytes).readMany address bytes.length).length = bytes.length := by
    rw [readMany, List.length_map, List.length_range]
  rw [List.ext_getElem_iff, and_iff_right hlength]
  refine forall_congr' fun k => ?_
  have hread (hk : k < bytes.length) :
      (m.write address bytes).read (address + k) = bytes[k] ↔
        address + k < m.size ∨ bytes[k] = 0 := by
    rw [m.read_write_offset hk]
    split
    · rename_i hsize
      exact iff_of_true rfl (.inl hsize)
    · rename_i hsize
      rw [or_iff_right hsize, eq_comm]
  simp only [readMany, List.getElem_map, List.getElem_range, List.length_map, List.length_range]
  exact ⟨fun h hk => (hread hk).mp (h hk hk), fun h hk _ => (hread hk).mpr (h hk)⟩

theorem fits_iff_readMany_write (hne : bytes ≠ []) (hnonzero : ∀ byte ∈ bytes, byte ≠ 0) :
    m.fits address bytes.length = true ↔
      (m.write address bytes).readMany address bytes.length = bytes := by
  rw [m.fits_iff_keeps hne, m.readMany_write_eq_iff]
  refine forall₂_congr fun k hk => ?_
  rw [m.drops_iff hk, or_iff_left (hnonzero _ (List.getElem_mem hk)), Nat.not_le]

end Written

-- A write stores what there is memory for and leaves the rest alone, and a
-- range of one byte or more fits exactly if no byte written to it is dropped,
-- which a string without zeros tells when it is read back. Counting addresses in
-- one word changes nothing of that.
theorem write_keeps_what_fits (m : Memory) (address : Nat) (bytes : List UInt8) :
    m.Written (m.write address bytes) address bytes ∧
    (bytes ≠ [] →
      (m.fits address bytes.length = true ↔ ∀ k < bytes.length, ¬ m.Drops address bytes k) ∧
      ((∀ byte ∈ bytes, byte ≠ 0) →
        (m.fits address bytes.length = true ↔
          (m.write address bytes).readMany address bytes.length = bytes))) ∧
    (m.size < wordLimit →
      m.writeChecked address bytes = m.write address bytes ∧
        m.fitsChecked address bytes.length = m.fits address bytes.length) :=
  ⟨m.written_write address bytes,
    fun hne => ⟨m.fits_iff_keeps hne, m.fits_iff_readMany_write hne⟩,
    fun hcounted => ⟨writeChecked_eq (Nat.le_of_lt hcounted) address bytes,
      fitsChecked_eq hcounted address bytes.length⟩⟩

-- Three bytes of which one is past the end, and two of which the second has an
-- address that no word counts.
theorem write_keeps_what_fits_straddling :
    (blank 32).size < wordLimit ∧
      ((blank 32).write 30 [1, 2, 3]).read 31 = 2 ∧
      (∃ k < 3, (blank 32).Drops 30 [1, 2, 3] k) ∧
      ((blank 32).write 30 [1, 2, 3]).readMany 30 3 ≠ [1, 2, 3] ∧
      (blank 32).writeChecked 18446744073709551615 [1, 2] =
        (blank 32).write 18446744073709551615 [1, 2] ∧
      (blank 32).fitsChecked 18446744073709551615 2 = false := by
  have hcounted : (blank 32).size < wordLimit := by decide
  have hmisfit : ¬ (blank 32).fits 30 3 = true := by decide
  obtain ⟨hwritten, hfits, -⟩ := write_keeps_what_fits (blank 32) 30 [1, 2, 3]
  obtain ⟨hkeeps, hreads⟩ := hfits (by decide)
  obtain ⟨-, -, hchecked⟩ := write_keeps_what_fits (blank 32) 18446744073709551615 [1, 2]
  obtain ⟨hwrite, hword⟩ := hchecked hcounted
  refine ⟨hcounted, hwritten.read_inside 31 (by decide) (by decide), ?_,
    mt (hreads (by simp)).mpr hmisfit, hwrite, hword.trans (by decide)⟩
  simpa using mt hkeeps.mpr hmisfit

end Chip8.Memory
