import Chip8.Dialect
import Chip8.Overflow

namespace Chip8

-- Sizes are counted in 64-bit words; rates are per second. The defaults are
-- those of a CHIP-8.
structure Config where
  memorySize : Nat := 4096
  -- Where the program is loaded, and where execution starts.
  programAddress : UInt16 := 0x200
  fontAddress : UInt16 := 0x50
  -- Slots of the call stack before it has to grow.
  stackSize : Nat := 32
  instructionRate : UInt32 := 700
  delayRate : UInt32 := 60
  frameRate : UInt32 := 60
  width : Nat := 64
  height : Nat := 32
  dialect : Dialect := .cosmacVip
  -- Seeds the random bytes. Without a seed they are not repeatable.
  seed : Option UInt64 := none
  deriving DecidableEq, Repr

inductive ConfigError where
  | memorySize
  | programAddress
  | fontAddress
  | rate
  | displaySize
  deriving DecidableEq, Repr

def ConfigError.reason : ConfigError → String
  | .memorySize => "memory size must be between 1 and 65536 bytes"
  | .programAddress => "program address must be inside memory"
  | .fontAddress => "font address must be inside memory"
  | .rate => "frequencies must be non-zero"
  | .displaySize => "display dimensions must be non-zero"

namespace Config

structure Valid (c : Config) : Prop where
  memorySize_pos : 0 < c.memorySize
  memorySize_le : c.memorySize ≤ 0x10000
  programAddress_lt : c.programAddress.toNat < c.memorySize
  fontAddress_lt : c.fontAddress.toNat < c.memorySize
  instructionRate_ne : c.instructionRate ≠ 0
  delayRate_ne : c.delayRate ≠ 0
  frameRate_ne : c.frameRate ≠ 0
  width_pos : 0 < c.width
  height_pos : 0 < c.height

def validate (c : Config) : Except ConfigError Unit :=
  if c.memorySize = 0 ∨ 0x10000 < c.memorySize then .error .memorySize
  else if c.memorySize ≤ c.programAddress.toNat then .error .programAddress
  else if c.memorySize ≤ c.fontAddress.toNat then .error .fontAddress
  else if c.instructionRate = 0 ∨ c.delayRate = 0 ∨ c.frameRate = 0 then .error .rate
  else if c.width = 0 ∨ c.height = 0 then .error .displaySize
  else .ok ()

-- The display and the call stack can be allocated. `validate` bounds neither.
structure Allocatable (c : Config) : Prop where
  display : c.width * c.height < allocationLimit
  stack : 2 * c.stackSize < allocationLimit

instance (c : Config) : Decidable c.Allocatable :=
  decidable_of_iff (c.width * c.height < allocationLimit ∧ 2 * c.stackSize < allocationLimit)
    ⟨fun h => ⟨h.1, h.2⟩, fun h => ⟨h.display, h.stack⟩⟩

theorem valid_of_validate {c : Config} (h : c.validate = .ok ()) : c.Valid := by
  unfold validate at h
  split at h
  · contradiction
  split at h
  · contradiction
  split at h
  · contradiction
  split at h
  · contradiction
  split at h
  · contradiction
  rename_i hsize hprogram hfont hrate hdisplay
  simp only [not_or] at hsize hrate hdisplay
  exact ⟨by omega, by omega, by omega, by omega, hrate.1, hrate.2.1, hrate.2.2, by omega, by omega⟩

end Config

end Chip8
