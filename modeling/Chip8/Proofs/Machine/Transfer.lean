import Chip8.Proofs.Machine.Effect

namespace Chip8.Machine

-- Where a transfer puts register `r`. An I that moves wraps at 16 bits.
def target (m : Machine) (r : Nibble) : Nat :=
  if m.dialect.transferMovesIndex then m.indexAddress r.val % 0x10000 else m.indexAddress r.val

def movedIndex (m : Machine) (n : Nat) : UInt16 :=
  if m.dialect.transferMovesIndex then m.registers.i + UInt16.ofNat n else m.registers.i

def stored (m : Machine) (n : Nat) : Machine :=
  { m with
    memory := (Nibble.all.take n).foldl (fun memory r => memory.set (m.target r) (m.get r)) m.memory
    registers := { m.registers with i := m.movedIndex n } }

def loaded (m : Machine) (n : Nat) : Machine :=
  { m with
    registers :=
      { (Nibble.all.take n).foldl (fun registers r => registers.set r (m.memory.read (m.target r)))
          m.registers with
        i := m.movedIndex n } }

section Rounds

variable (m : Machine)

theorem target_inj {r r' : Nibble} (h : m.target r = m.target r') : r = r' := by
  have hr := r.val_lt
  have hr' := r'.val_lt
  unfold target indexAddress at h
  apply Fin.ext
  split at h <;> omega

theorem target_of_lt {m : Machine} {r : Nibble} (h : m.indexAddress r.val < 0x10000) :
    m.target r = m.indexAddress r.val := by
  unfold target
  split
  · exact Nat.mod_eq_of_lt h
  · rfl

theorem movedIndex_zero : m.movedIndex 0 = m.registers.i := by
  unfold movedIndex
  split
  · exact UInt16.add_zero _
  · rfl

theorem transferAddress_eq_target {m m' : Machine} {r : Nibble} (hdialect : m'.dialect = m.dialect)
    (hindex : m'.registers.i = m.movedIndex r.val) : m'.transferAddress r = m.target r := by
  have hr := r.val_lt
  unfold transferAddress target indexAddress
  rw [hdialect, hindex, movedIndex]
  split
  · rw [UInt16.toNat_add, UInt16.toNat_ofNat']
    omega
  · rfl

theorem moveIndex_eq_movedIndex {m m' : Machine} {n : Nat} (hdialect : m'.dialect = m.dialect)
    (hindex : m'.registers.i = m.movedIndex n) :
    m'.moveIndex = m'.setIndex (m.movedIndex (n + 1)) := by
  unfold moveIndex
  rw [hdialect]
  unfold movedIndex at hindex ⊢
  split
  · rename_i h
    rw [if_pos h] at hindex
    rw [hindex, UInt16.ofNat_add, UInt16.add_assoc]
    rfl
  · rename_i h
    rw [if_neg h] at hindex
    rw [← hindex]
    rfl

theorem storeRegister_stored (r : Nibble) :
    (m.stored r.val).storeRegister r = m.stored (r.val + 1) := by
  have htarget : (m.stored r.val).transferAddress r = m.target r :=
    transferAddress_eq_target rfl rfl
  rw [storeRegister, htarget]
  refine (moveIndex_eq_movedIndex (m := m) (n := r.val) ?_ ?_).trans ?_
  · rfl
  · rfl
  · unfold stored
    rw [Nibble.take_all_succ, List.foldl_append]
    rfl

theorem loadRegister_loaded (r : Nibble) :
    (m.loaded r.val).loadRegister r = m.loaded (r.val + 1) := by
  have htarget : (m.loaded r.val).transferAddress r = m.target r :=
    transferAddress_eq_target rfl rfl
  rw [loadRegister, htarget]
  refine (moveIndex_eq_movedIndex (m := m) (n := r.val) ?_ ?_).trans ?_
  · rfl
  · rfl
  · unfold loaded
    rw [Nibble.take_all_succ, List.foldl_append]
    rfl

theorem foldl_upTo {β : Type} {step : β → Nibble → β} {result : Nat → β}
    (hstep : ∀ r : Nibble, step (result r.val) r = result (r.val + 1)) (last : Nibble) :
    (Nibble.upTo last).foldl step (result 0) = result (last.val + 1) := by
  have hprefix : ∀ n ≤ 16, (Nibble.all.take n).foldl step (result 0) = result n := by
    intro n hn
    induction n with
    | zero => rfl
    | succ n ih =>
      have htake := Nibble.take_all_succ ⟨n, hn⟩
      rw [htake, List.foldl_append, ih (by omega)]
      exact hstep ⟨n, hn⟩
  rw [Nibble.upTo_eq_take]
  exact hprefix _ last.val_lt

theorem storeRegisters_eq_stored (last : Nibble) :
    m.storeRegisters last = m.stored (last.val + 1) := by
  have hzero : m.stored 0 = m := by
    rw [stored, movedIndex_zero]
    rfl
  have hrounds := foldl_upTo m.storeRegister_stored last
  rwa [hzero] at hrounds

theorem loadRegisters_eq_loaded (last : Nibble) :
    m.loadRegisters last = m.loaded (last.val + 1) := by
  have hzero : m.loaded 0 = m := by
    rw [loaded, movedIndex_zero]
    rfl
  have hrounds := foldl_upTo m.loadRegister_loaded last
  rwa [hzero] at hrounds

end Rounds

section Writes

variable {m : Machine} {rs : List Nibble}

theorem read_foldl_set_other {a : Nat} (h : ∀ r ∈ rs, a ≠ m.target r) (memory : Memory) :
    (rs.foldl (fun memory r => memory.set (m.target r) (m.get r)) memory).read a =
      memory.read a := by
  induction rs generalizing memory with
  | nil => rfl
  | cons r rest ih =>
    have hne := h r (List.mem_cons_self ..)
    rw [List.foldl_cons, ih fun r' hr' => h r' (List.mem_cons_of_mem _ hr'), Memory.read_set,
      if_neg fun heq => hne heq.1]

theorem read_foldl_set_target {r : Nibble} (hr : r ∈ rs) {memory : Memory}
    (hsize : m.target r < memory.size) :
    (rs.foldl (fun memory r => memory.set (m.target r) (m.get r)) memory).read (m.target r) =
      m.get r := by
  induction rs generalizing memory with
  | nil => contradiction
  | cons r' rest ih =>
    rw [List.foldl_cons]
    by_cases hrest : r ∈ rest
    · exact ih hrest (by rwa [Memory.size_set])
    -- no later register has the same target
    have hother : ∀ later ∈ rest, m.target r ≠ m.target later := by
      intro later hlater heq
      exact hrest (m.target_inj heq ▸ hlater)
    obtain rfl : r = r' := (List.mem_cons.mp hr).resolve_right hrest
    rw [read_foldl_set_other hother, Memory.read_set, if_pos ⟨rfl, hsize⟩]

theorem get_foldl_set_other (f : Nibble → UInt8) {x : Nibble} (h : x ∉ rs) (registers : Registers) :
    (rs.foldl (fun registers r => registers.set r (f r)) registers).get x = registers.get x := by
  induction rs generalizing registers with
  | nil => rfl
  | cons r rest ih =>
    have hne : x ≠ r := fun heq => h (heq ▸ List.mem_cons_self ..)
    rw [List.foldl_cons, ih fun hrest => h (List.mem_cons_of_mem _ hrest), Registers.get_set,
      if_neg hne]

theorem get_foldl_set_mem (f : Nibble → UInt8) {x : Nibble} (h : x ∈ rs) (registers : Registers) :
    (rs.foldl (fun registers r => registers.set r (f r)) registers).get x = f x := by
  induction rs generalizing registers with
  | nil => contradiction
  | cons r rest ih =>
    rw [List.foldl_cons]
    by_cases hrest : x ∈ rest
    · exact ih hrest _
    · have hx : x = r := (List.mem_cons.mp h).resolve_right hrest
      rw [get_foldl_set_other f hrest, Registers.get_set, if_pos hx, hx]

theorem pc_foldl_set (f : Nibble → UInt8) (registers : Registers) :
    (rs.foldl (fun registers r => registers.set r (f r)) registers).pc = registers.pc := by
  induction rs generalizing registers with
  | nil => rfl
  | cons r rest ih => rw [List.foldl_cons, ih, Registers.pc_set]

end Writes

section Whole

variable {m : Machine} {last : Nibble}

theorem storeRegisters_memory :
    (m.storeRegisters last).memory =
      (Nibble.upTo last).foldl (fun memory r => memory.set (m.target r) (m.get r)) m.memory := by
  rw [storeRegisters_eq_stored, Nibble.upTo_eq_take]
  rfl

theorem registers_storeRegisters :
    (m.storeRegisters last).registers = { m.registers with i := m.movedIndex (last.val + 1) } := by
  rw [storeRegisters_eq_stored]
  rfl

theorem read_storeRegisters_target {r : Nibble} (hr : r ≤ last)
    (hsize : m.target r < m.memory.size) :
    (m.storeRegisters last).memory.read (m.target r) = m.get r := by
  rw [storeRegisters_memory]
  exact read_foldl_set_target (Nibble.mem_upTo.mpr hr) hsize

theorem read_storeRegisters_other {a : Nat} (h : ∀ r ≤ last, a ≠ m.target r) :
    (m.storeRegisters last).memory.read a = m.memory.read a := by
  rw [storeRegisters_memory]
  exact read_foldl_set_other (fun r hr => h r (Nibble.mem_upTo.mp hr)) _

theorem get_loadRegisters (x : Nibble) :
    (m.loadRegisters last).get x =
      if x ≤ last then m.memory.read (m.target x) else m.get x := by
  rw [loadRegisters_eq_loaded, loaded, ← Nibble.upTo_eq_take]
  split
  · rename_i h
    exact get_foldl_set_mem (fun r => m.memory.read (m.target r)) (Nibble.mem_upTo.mpr h) _
  · rename_i h
    exact get_foldl_set_other (fun r => m.memory.read (m.target r)) (mt Nibble.mem_upTo.mp h) _

theorem index_loadRegisters :
    (m.loadRegisters last).registers.i = m.movedIndex (last.val + 1) := by
  rw [loadRegisters_eq_loaded]
  rfl

theorem pc_loadRegisters : (m.loadRegisters last).registers.pc = m.registers.pc := by
  rw [loadRegisters_eq_loaded]
  exact pc_foldl_set _ _

end Whole

def withTransfer (m : Machine) (moves : Bool) : Machine :=
  { m with dialect := { m.dialect with transferMovesIndex := moves } }

def AgreesButForIndex (m : Machine) (keys : Keypad) (address : UInt16) (x : Nibble)
    (transfer : Instruction) : Prop :=
  (m.withTransfer true).execute keys address transfer =
    (.done, (((m.withTransfer false).execute keys address transfer).2.withTransfer true).setIndex
      (m.registers.i + UInt16.ofNat (x.val + 1)))

-- Storing V0 to Vx does not show whether addresses wrap: what a moving I puts
-- behind the wrap, and what a fixed one puts past it, is there already.
def StoreHidesWrap (m : Machine) (x : Nibble) : Prop :=
  ∀ r ≤ x, 0x10000 ≤ m.indexAddress r.val →
    (m.indexAddress r.val - 0x10000 < m.memory.size →
      m.memory.read (m.indexAddress r.val - 0x10000) = m.get r) ∧
    (m.indexAddress r.val < m.memory.size → m.memory.read (m.indexAddress r.val) = m.get r)

-- Loading V0 to Vx does not show whether addresses wrap: memory is the same on
-- both sides.
def LoadHidesWrap (m : Machine) (x : Nibble) : Prop :=
  ∀ r ≤ x, 0x10000 ≤ m.indexAddress r.val →
    m.memory.read (m.indexAddress r.val - 0x10000) = m.memory.read (m.indexAddress r.val)

section Dialects

variable (m : Machine) (keys : Keypad) (address : UInt16) (x : Nibble)

theorem target_fixed (r : Nibble) : (m.withTransfer false).target r = m.indexAddress r.val := rfl

theorem target_moving (r : Nibble) :
    (m.withTransfer true).target r = m.indexAddress r.val % 0x10000 :=
  rfl

theorem target_moving_lt (r : Nibble) : (m.withTransfer true).target r < 0x10000 :=
  Nat.mod_lt _ (by decide)

theorem target_moving_of_lt {r : Nibble} (h : m.indexAddress r.val < 0x10000) :
    (m.withTransfer true).target r = m.indexAddress r.val :=
  target_of_lt (m := m.withTransfer true) h

-- I is below the limit itself, so the wrapped address lies far below I.
theorem target_moving_of_le {r : Nibble} (h : 0x10000 ≤ m.indexAddress r.val) :
    (m.withTransfer true).target r = m.indexAddress r.val - 0x10000 ∧
      m.indexAddress r.val - 0x10000 < m.indexAddress 0 := by
  have hi : m.registers.i.toNat < 0x10000 := m.registers.i.toNat_lt
  have hr := r.val_lt
  rw [target_moving]
  unfold indexAddress at h ⊢
  omega

theorem indexAddress_zero_le (n : Nat) : m.indexAddress 0 ≤ m.indexAddress n :=
  Nat.add_le_add_left (Nat.zero_le n) _

theorem storeRegisters_agrees_iff_memory :
    m.AgreesButForIndex keys address x (.storeRegisters x) ↔
      ((m.withTransfer true).storeRegisters x).memory =
        ((m.withTransfer false).storeRegisters x).memory := by
  constructor
  · intro h
    exact congrArg (fun result => result.2.memory) h
  · intro h
    have hrest : (m.withTransfer true).storeRegisters x =
        { (((m.withTransfer false).storeRegisters x).withTransfer true).setIndex
            (m.registers.i + UInt16.ofNat (x.val + 1)) with
          memory := ((m.withTransfer true).storeRegisters x).memory } := by
      rw [storeRegisters_eq_stored, storeRegisters_eq_stored]
      rfl
    rw [h] at hrest
    exact congrArg (Prod.mk Outcome.done) hrest

theorem loadRegisters_agrees_iff_get :
    m.AgreesButForIndex keys address x (.loadRegisters x) ↔
      ∀ r, ((m.withTransfer true).loadRegisters x).get r =
        ((m.withTransfer false).loadRegisters x).get r := by
  constructor
  · intro h r
    exact congrArg (fun result => result.2.registers.get r) h
  · intro h
    have hrest : (m.withTransfer true).loadRegisters x =
        { (((m.withTransfer false).loadRegisters x).withTransfer true).setIndex
            (m.registers.i + UInt16.ofNat (x.val + 1)) with
          registers := ((m.withTransfer true).loadRegisters x).registers } := by
      rw [loadRegisters_eq_loaded, loadRegisters_eq_loaded]
      rfl
    have hregisters : ((m.withTransfer true).loadRegisters x).registers =
        { ((m.withTransfer false).loadRegisters x).registers with
          i := m.registers.i + UInt16.ofNat (x.val + 1) } := by
      have hpc : ((m.withTransfer false).loadRegisters x).registers.pc = m.registers.pc :=
        pc_loadRegisters
      exact Registers.ext_get h index_loadRegisters (pc_loadRegisters.trans hpc.symm)
    rw [hregisters] at hrest
    exact congrArg (Prod.mk Outcome.done) hrest

theorem read_storeRegisters_agree {x : Nibble} (h : m.StoreHidesWrap x) {a : Nat}
    (hsize : a < m.memory.size) :
    ((m.withTransfer true).storeRegisters x).memory.read a =
      ((m.withTransfer false).storeRegisters x).memory.read a := by
  have hstored (moves : Bool) (r : Nibble) (hr : r ≤ x)
      (htarget : (m.withTransfer moves).target r = a) :
      ((m.withTransfer moves).storeRegisters x).memory.read a = m.get r := by
    subst htarget
    exact read_storeRegisters_target hr hsize
  by_cases hfixed : ∃ r ≤ x, m.indexAddress r.val = a
  · obtain ⟨r, hr, rfl⟩ := hfixed
    rw [hstored false r hr rfl]
    by_cases hwrap : 0x10000 ≤ m.indexAddress r.val
    · rw [← (h r hr hwrap).2 hsize]
      refine read_storeRegisters_other fun r' _ heq => ?_
      have hlt := m.target_moving_lt r'
      omega
    · exact hstored true r hr (m.target_moving_of_lt (by omega))
  · have hkept : ((m.withTransfer false).storeRegisters x).memory.read a = m.memory.read a :=
      read_storeRegisters_other fun r hr heq => hfixed ⟨r, hr, heq.symm⟩
    rw [hkept]
    by_cases hmoving : ∃ r ≤ x, (m.withTransfer true).target r = a
    · obtain ⟨r, hr, htarget⟩ := hmoving
      have hwrap : 0x10000 ≤ m.indexAddress r.val := Nat.le_of_not_lt fun hlt =>
        hfixed ⟨r, hr, (m.target_moving_of_lt hlt).symm.trans htarget⟩
      have hlow := (m.target_moving_of_le hwrap).1.symm.trans htarget
      rw [hstored true r hr htarget, ← (h r hr hwrap).1 (hlow ▸ hsize), hlow]
    · exact read_storeRegisters_other fun r hr heq => hmoving ⟨r, hr, heq.symm⟩

-- A target past the last 16-bit address starts over at zero when I moves. It
-- meets no other target there, so the byte it writes has to be there already.
theorem storeRegisters_memory_eq_iff :
    ((m.withTransfer true).storeRegisters x).memory =
        ((m.withTransfer false).storeRegisters x).memory ↔ m.StoreHidesWrap x := by
  constructor
  · intro h r hr hwrap
    obtain ⟨htarget, hlow⟩ := m.target_moving_of_le hwrap
    constructor
    · intro hsize
      have hstored : ((m.withTransfer true).storeRegisters x).memory.read _ = m.get r :=
        read_storeRegisters_target hr (htarget ▸ hsize)
      rw [h, htarget, read_storeRegisters_other] at hstored
      · exact hstored
      · intro r' _ heq
        have hge := m.indexAddress_zero_le r'.val
        rw [target_fixed] at heq
        omega
    · intro hsize
      have hstored : ((m.withTransfer false).storeRegisters x).memory.read _ = m.get r :=
        read_storeRegisters_target hr hsize
      rw [← h, target_fixed, read_storeRegisters_other] at hstored
      · exact hstored
      · intro r' _ heq
        have hlt := m.target_moving_lt r'
        omega
  · intro h
    have hsizes (moves : Bool) :
        ((m.withTransfer moves).storeRegisters x).memory.size = m.memory.size :=
      memorySize_storeRegisters _ x
    refine Memory.ext_read ((hsizes true).trans (hsizes false).symm) fun a => ?_
    by_cases hsize : a < m.memory.size
    · exact m.read_storeRegisters_agree h hsize
    · have hpast (moves : Bool) : ((m.withTransfer moves).storeRegisters x).memory.read a = 0 :=
        Memory.read_of_size_le _ (by rw [hsizes]; omega)
      rw [hpast, hpast]

theorem loadRegisters_get_eq_iff :
    (∀ r, ((m.withTransfer true).loadRegisters x).get r =
        ((m.withTransfer false).loadRegisters x).get r) ↔ m.LoadHidesWrap x := by
  have hget (moves : Bool) (r : Nibble) : ((m.withTransfer moves).loadRegisters x).get r =
      if r ≤ x then m.memory.read ((m.withTransfer moves).target r) else m.get r :=
    get_loadRegisters r
  constructor
  · intro h r hr hwrap
    have hread := h r
    rw [hget, hget, if_pos hr, if_pos hr, target_fixed, (m.target_moving_of_le hwrap).1] at hread
    exact hread
  · intro h r
    rw [hget, hget]
    by_cases hr : r ≤ x
    · rw [if_pos hr, if_pos hr, target_fixed]
      by_cases hwrap : 0x10000 ≤ m.indexAddress r.val
      · rw [(m.target_moving_of_le hwrap).1, h r hr hwrap]
      · rw [m.target_moving_of_lt (by omega)]
    · rw [if_neg hr, if_neg hr]

end Dialects

-- Storing V0 to Vx ends with each register at its distance from I, or dropped
-- past the end of memory, and with every other byte as it was.
def StoresUnwrapped (m : Machine) (x : Nibble) (result : Machine) : Prop :=
  (∀ r ≤ x, m.indexAddress r.val < m.memory.size →
      result.memory.read (m.indexAddress r.val) = m.get r) ∧
    ∀ a, (∀ r ≤ x, a ≠ m.indexAddress r.val) → result.memory.read a = m.memory.read a

-- Loading V0 to Vx ends with each of them holding the byte at its distance from
-- I, which is zero past the end of memory, and with the others as they were.
def LoadsUnwrapped (m : Machine) (x : Nibble) (result : Machine) : Prop :=
  ∀ r, result.get r = if r ≤ x then m.memory.read (m.indexAddress r.val) else m.get r

section Agreement

variable (m : Machine) (keys : Keypad) (address : UInt16) (x : Nibble)

theorem storesUnwrapped_fixed :
    m.StoresUnwrapped x ((m.withTransfer false).storeRegisters x) :=
  ⟨fun r hr hsize => read_storeRegisters_target (m := m.withTransfer false) (r := r) hr hsize,
    fun _ h => read_storeRegisters_other (m := m.withTransfer false) h⟩

theorem loadsUnwrapped_fixed : m.LoadsUnwrapped x ((m.withTransfer false).loadRegisters x) :=
  fun r => get_loadRegisters (m := m.withTransfer false) r

-- Whether transfers move I shows in nothing but I exactly when it hides where
-- addresses wrap, and so whenever the last register has a 16-bit address.
theorem transfers_agree_iff_hide_wrap :
    (m.AgreesButForIndex keys address x (.storeRegisters x) ∧
        ((m.withTransfer false).execute keys address (.storeRegisters x)).2.registers.i =
          m.registers.i ∧
        (∀ moves, m.StoresUnwrapped x
          ((m.withTransfer moves).execute keys address (.storeRegisters x)).2) ↔
      m.StoreHidesWrap x) ∧
    (m.AgreesButForIndex keys address x (.loadRegisters x) ∧
        ((m.withTransfer false).execute keys address (.loadRegisters x)).2.registers.i =
          m.registers.i ∧
        (∀ moves, m.LoadsUnwrapped x
          ((m.withTransfer moves).execute keys address (.loadRegisters x)).2) ↔
      m.LoadHidesWrap x) ∧
    (m.indexAddress x.val < 0x10000 → m.StoreHidesWrap x ∧ m.LoadHidesWrap x) := by
  refine ⟨⟨?_, ?_⟩, ⟨?_, ?_⟩, ?_⟩
  · rintro ⟨hagree, -, -⟩
    exact (m.storeRegisters_memory_eq_iff x).mp
      ((m.storeRegisters_agrees_iff_memory keys address x).mp hagree)
  · intro h
    have hmemory := (m.storeRegisters_memory_eq_iff x).mpr h
    refine ⟨(m.storeRegisters_agrees_iff_memory keys address x).mpr hmemory, ?_, ?_⟩
    · exact congrArg Registers.i (registers_storeRegisters (m := m.withTransfer false))
    · intro moves
      cases moves with
      | false => exact m.storesUnwrapped_fixed x
      | true =>
        have hfixed := m.storesUnwrapped_fixed x
        unfold StoresUnwrapped at hfixed ⊢
        rw [← hmemory] at hfixed
        exact hfixed
  · rintro ⟨hagree, -, -⟩
    exact (m.loadRegisters_get_eq_iff x).mp
      ((m.loadRegisters_agrees_iff_get keys address x).mp hagree)
  · intro h
    have hget := (m.loadRegisters_get_eq_iff x).mpr h
    refine ⟨(m.loadRegisters_agrees_iff_get keys address x).mpr hget, ?_, ?_⟩
    · exact index_loadRegisters (m := m.withTransfer false)
    · intro moves r
      cases moves with
      | false => exact m.loadsUnwrapped_fixed x r
      | true => exact (hget r).trans (m.loadsUnwrapped_fixed x r)
  · intro hlast
    have hinside : ∀ r ≤ x, ¬ 0x10000 ≤ m.indexAddress r.val := by
      intro r hr hwrap
      have hle : r.val ≤ x.val := hr
      unfold indexAddress at hlast hwrap
      omega
    exact ⟨fun r hr hwrap => absurd hwrap (hinside r hr),
      fun r hr hwrap => absurd hwrap (hinside r hr)⟩

end Agreement

-- A machine with a full memory of zeros, and I at its last byte.
def atLastByte : Machine :=
  { ofConfig { memorySize := 0x10000 } ⟨Vector.replicate 8 0, 0⟩ with
    registers := ⟨#v[0xAA, 0xBB, 0, 0, 0, 0, 0, 0, 0, 0, 0, 0, 0, 0, 0, 0], 0xFFFF, 0x208⟩ }

-- V1 is stored at address zero when I moves, and dropped when it does not.
theorem transfers_disagree_at_last_byte :
    ¬ atLastByte.AgreesButForIndex .released 0x206 1 (.storeRegisters 1) := by
  intro hagree
  have hmemory := (atLastByte.storeRegisters_agrees_iff_memory _ _ _).mp hagree
  have hhidden := (atLastByte.storeRegisters_memory_eq_iff 1).mp hmemory 1 (by decide) (by decide)
  have hsize : atLastByte.memory.size = 0x10000 := Memory.size_blank _
  have hzero : atLastByte.memory.read 0 = 0 := Memory.read_blank _ _
  have hstored := hhidden.1 (by rw [hsize]; decide)
  have hvalue : atLastByte.get 1 = 0 := hstored.symm.trans hzero
  exact absurd hvalue (by decide)

end Chip8.Machine
