namespace Chip8

-- Sizes are counted in one 64-bit word, and the bytes of an allocation in a
-- signed one.
def wordLimit : Nat := 18446744073709551616

def allocationLimit : Nat := 9223372036854775808

-- A size that its word cannot hold, by the operation that reached it.
inductive Overflow where
  | addition
  | multiplication
  | capacity
  deriving DecidableEq, Repr

def Overflow.message : Overflow → String
  | .addition => "attempt to add with overflow"
  | .multiplication => "attempt to multiply with overflow"
  | .capacity => "capacity overflow"

def checkCells (width height : Nat) : Except Overflow Unit :=
  if width * height < wordLimit then .ok () else .error .multiplication

-- `count` equal elements of `bytes` bytes each.
def allocate {α : Type} (bytes count : Nat) (value : α) : Except Overflow (Vector α count) :=
  if bytes * count < allocationLimit then .ok (.replicate count value) else .error .capacity

theorem lt_wordLimit_of_lt_allocationLimit {size : Nat} (h : size < allocationLimit) :
    size < wordLimit :=
  Nat.lt_trans h (by decide)

theorem checkCells_of_lt {width height : Nat} (h : width * height < wordLimit) :
    checkCells width height = .ok () :=
  if_pos h

theorem checkCells_of_le {width height : Nat} (h : wordLimit ≤ width * height) :
    checkCells width height = .error .multiplication :=
  if_neg (Nat.not_lt.mpr h)

section Allocation

variable {α : Type} {bytes count : Nat} (value : α)

theorem allocate_of_lt (h : bytes * count < allocationLimit) :
    allocate bytes count value = .ok (.replicate count value) :=
  if_pos h

theorem allocate_of_le (h : allocationLimit ≤ bytes * count) :
    allocate bytes count value = .error .capacity :=
  if_neg (Nat.not_lt.mpr h)

end Allocation

end Chip8
