import Chip8.Proofs.Machine.Effect
import Chip8.Proofs.Machine.Lockstep

namespace Chip8

namespace Keypad

structure IsLowest (k : Keypad) (key : Nibble) : Prop where
  down : k.isDown key = true
  least : ∀ other < key, k.isDown other = false

theorem lowest?_eq_some_iff {k : Keypad} {key : Nibble} :
    k.lowest? = some key ↔ k.IsLowest key := by
  rw [lowest?, Nibble.all, List.find?_eq_some_iff_getElem]
  constructor
  · rintro ⟨hdown, i, hi, hkey, hless⟩
    refine ⟨hdown, fun other hother => ?_⟩
    have hval : i = key.val := by simpa using congrArg Fin.val hkey
    have hnot := hless other.val (hval ▸ hother)
    simpa using hnot
  · rintro ⟨hdown, hleast⟩
    refine ⟨hdown, key.val, by simp, by simp, fun j hj => ?_⟩
    have hnot := hleast ⟨j, by omega⟩ hj
    simpa using hnot

theorem lowest?_eq_none_iff {k : Keypad} : k.lowest? = none ↔ ∀ key, k.isDown key = false := by
  simp [lowest?, Nibble.all]

theorem exists_isLowest {k : Keypad} {down : Nibble} (h : k.isDown down = true) :
    ∃ key, k.IsLowest key := by
  cases hlowest : k.lowest? with
  | none => exact absurd h (Bool.eq_false_iff.mp (lowest?_eq_none_iff.mp hlowest down))
  | some key => exact ⟨key, lowest?_eq_some_iff.mp hlowest⟩

instance (k : Keypad) (key : Nibble) : Decidable (k.IsLowest key) :=
  decidable_of_iff _ lowest?_eq_some_iff

theorem lowest?_eq_iff {k k' : Keypad} :
    k'.lowest? = k.lowest? ↔ ∀ key, k.IsLowest key ↔ k'.IsLowest key := by
  constructor
  · intro h key
    rw [← lowest?_eq_some_iff, ← lowest?_eq_some_iff, h]
  · intro h
    ext key
    rw [lowest?_eq_some_iff, lowest?_eq_some_iff, h]

end Keypad

namespace Instruction

def askedKey? (m : Machine) : Instruction → Option Nibble
  | .skipIfPressed x | .skipIfReleased x => some (Nibble.low (m.get x))
  | _ => none

def waits : Instruction → Bool
  | .waitForKey _ => true
  | _ => false

-- What an instruction asks of the keys has the same answer in both snapshots.
structure SeesAlike (i : Instruction) (m : Machine) (keys keys' : Keypad) : Prop where
  asked : ∀ key, i.askedKey? m = some key → keys.isDown key = keys'.isDown key
  lowest : i.waits = true → ∀ key, keys.IsLowest key ↔ keys'.IsLowest key

instance (i : Instruction) (m : Machine) (keys keys' : Keypad) :
    Decidable (i.SeesAlike m keys keys') :=
  decidable_of_iff
    ((∀ key, i.askedKey? m = some key → keys.isDown key = keys'.isDown key) ∧
      (i.waits = true → ∀ key, keys.IsLowest key ↔ keys'.IsLowest key))
    ⟨fun h => ⟨h.1, h.2⟩, fun h => ⟨h.asked, h.lowest⟩⟩

end Instruction

namespace Machine

section Cycles

variable {m : Machine} {keys keys' : Keypad} {i : Instruction}

theorem skipIf_inj {taken taken' : Bool} (h : m.skipIf taken' = m.skipIf taken) :
    taken = taken' := by
  have hne : m.registers.pc + 2 ≠ m.registers.pc := by simp
  have hpc : (m.skipIf taken').registers.pc = (m.skipIf taken).registers.pc := by rw [h]
  cases taken <;> cases taken'
  · rfl
  · exact absurd hpc hne
  · exact absurd hpc.symm hne
  · rfl

theorem lowest?_of_waitForKey {address : UInt16} {x : Nibble}
    (h : m.waitForKey keys' address x = m.waitForKey keys address x) :
    keys'.lowest? = keys.lowest? := by
  unfold waitForKey at h
  cases hlowest : keys.lowest? with
  | none =>
    cases hlowest' : keys'.lowest? with
    | none => rfl
    | some key' => simp [hlowest, hlowest'] at h
  | some key =>
    cases hlowest' : keys'.lowest? with
    | none => simp [hlowest, hlowest'] at h
    | some key' =>
      simp only [hlowest, hlowest'] at h
      have hbyte : (m.set x key'.toByte).get x = (m.set x key.toByte).get x := by
        rw [(Prod.mk.inj h).2]
      have hset (value : UInt8) : (m.set x value).get x = value :=
        (m.get_set x value x).trans (if_pos rfl)
      rw [hset, hset] at hbyte
      have hkey := congrArg Nibble.low hbyte
      rw [Nibble.low_toByte, Nibble.low_toByte] at hkey
      rw [hkey]

-- The keys enter an instruction only by what it asks of them, and a different
-- answer makes a difference.
theorem execute_eq_iff_seesAlike (address : UInt16) :
    m.execute keys' address i = m.execute keys address i ↔ i.SeesAlike m keys keys' := by
  constructor
  · intro h
    cases i with
    | skipIfPressed x =>
      have hskip := skipIf_inj (Prod.mk.inj h).2
      exact ⟨fun key hkey => Option.some.inj hkey ▸ hskip, nofun⟩
    | skipIfReleased x =>
      have hskip := skipIf_inj (Prod.mk.inj h).2
      exact ⟨fun key hkey => Option.some.inj hkey ▸ Bool.not_inj hskip, nofun⟩
    | waitForKey x => exact ⟨nofun, fun _ => Keypad.lowest?_eq_iff.mp (lowest?_of_waitForKey h)⟩
    | _ => exact ⟨nofun, nofun⟩
  · intro h
    cases i with
    | skipIfPressed x | skipIfReleased x =>
      have hkey := h.asked _ rfl
      simp only [execute, hkey]
    | waitForKey x =>
      have hlowest := Keypad.lowest?_eq_iff.mpr (h.lowest rfl)
      simp only [execute, waitForKey, hlowest]
    | _ => rfl

theorem seesAlike_advance_iff : i.SeesAlike m.advance keys keys' ↔ i.SeesAlike m keys keys' := by
  have hasked : i.askedKey? m.advance = i.askedKey? m := by cases i <;> rfl
  constructor
  · intro h
    exact ⟨fun key hkey => h.asked key (hasked.trans hkey), h.lowest⟩
  · intro h
    exact ⟨fun key hkey => h.asked key (hasked.symm.trans hkey), h.lowest⟩

theorem cycle_eq_iff_seesAlike :
    m.cycle keys' = m.cycle keys ↔ (m.cycle keys).1.instruction.SeesAlike m keys keys' := by
  rw [← seesAlike_advance_iff, ← execute_eq_iff_seesAlike m.registers.pc]
  constructor
  · intro h
    exact Prod.ext (congrArg (fun result => result.1.outcome) h)
      (congrArg (fun result => result.2) h)
  · intro h
    rw [cycle, ← instruction_cycle m keys, h]
    rfl

end Cycles

-- Runs under two sequences of snapshots are the same, cycle by cycle, exactly if
-- every key instruction of the first run sees them alike.
theorem lockstep_iff_keys_seen_alike (m : Machine) {first second : List Keypad}
    (hlength : second.length = first.length) :
    Lockstep Eq m m first second ↔
      ∀ k keys keys', first[k]? = some keys → second[k]? = some keys' →
        ((m.before first k).cycle keys).1.instruction.SeesAlike (m.before first k) keys keys' := by
  constructor
  · intro h k keys keys' hkeys hkeys'
    obtain ⟨hk, rfl⟩ := List.getElem?_eq_some_iff.mp hkeys
    obtain ⟨hk', rfl⟩ := List.getElem?_eq_some_iff.mp hkeys'
    have hbefore := h.before k (Nat.le_of_lt hk)
    have hafter := h.before (k + 1) hk
    have hcycle := congrArg (fun cycles => cycles[k]?) h.cycles_eq
    rw [before_succ m first hk, before_succ m second hk', ← hbefore] at hafter
    simp only [getElem?_cycles, hkeys, hkeys', Option.map_some, ← hbefore] at hcycle
    exact cycle_eq_iff_seesAlike.mp (Prod.ext (Option.some.inj hcycle) hafter.symm)
  · intro h
    refine lockstep_of_steps hlength rfl fun k keys keys' hkeys hkeys' hbefore => ?_
    have hcycle := cycle_eq_iff_seesAlike.mpr (h k keys keys' hkeys hkeys')
    rw [← hbefore]
    exact ⟨by rw [hcycle], by rw [hcycle]⟩

-- A skip on the key that 0x1F names, over a word that is no instruction, and a
-- wait.
def keyReader : Machine :=
  { ofConfig { memorySize := 10, programAddress := 0, fontAddress := 0 }
      ⟨Vector.replicate 8 0, 0⟩ with
    memory := ⟨#[0x60, 0x1F, 0xE0, 0x9E, 0xFF, 0xFF, 0xF1, 0x0A, 0x20, 0x00]⟩ }

def keysDown (keys : List Nibble) : Keypad := keys.foldl (fun k key => k.set key true) .released

def fewKeys : List Keypad :=
  [keysDown [2], keysDown [0xF], keysDown [], keysDown [3], keysDown [0]]

def manyKeys : List Keypad :=
  [keysDown [4, 5], keysDown [1, 0xF], keysDown [], keysDown [3, 9, 0xF], keysDown []]

theorem lockstep_iff_keys_seen_alike_keyReader :
    (keyReader.cycles fewKeys).map Cycle.instruction =
        [.load 0 0x1F, .skipIfPressed 0, .waitForKey 1, .waitForKey 1, .call 0] ∧
      fewKeys ≠ manyKeys ∧ Lockstep Eq keyReader keyReader fewKeys manyKeys := by
  have hsees : ∀ k : Fin 5,
      ((keyReader.before fewKeys k).cycle fewKeys[k]).1.instruction.SeesAlike
        (keyReader.before fewKeys k) fewKeys[k] manyKeys[k] := by decide
  have hlength : manyKeys.length = fewKeys.length := rfl
  refine ⟨by decide, by decide, (lockstep_iff_keys_seen_alike keyReader hlength).mpr ?_⟩
  intro k keys keys' hkeys hkeys'
  obtain ⟨hk, rfl⟩ := List.getElem?_eq_some_iff.mp hkeys
  obtain ⟨-, rfl⟩ := List.getElem?_eq_some_iff.mp hkeys'
  exact hsees ⟨k, hk⟩

end Machine

end Chip8
