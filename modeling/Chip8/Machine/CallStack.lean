import Chip8.Overflow

namespace Chip8

-- Slots are never given back: a pop only lowers the depth. What counts are the
-- slots below it.
structure CallStack where
  slots : Array UInt16
  depth : Nat
  depth_le : depth ≤ slots.size
  deriving DecidableEq

namespace CallStack

def empty (capacity : Nat) : CallStack := ⟨Array.replicate capacity 0, 0, Nat.zero_le _⟩

-- An entry takes two bytes.
def new (capacity : Nat) : Except Overflow CallStack := do
  return ⟨(← allocate 2 capacity 0).toArray, 0, Nat.zero_le _⟩

def capacity (s : CallStack) : Nat := s.slots.size

def isEmpty (s : CallStack) : Bool := decide (s.depth = 0)

-- The entries in use, outermost first.
def live (s : CallStack) : List UInt16 := s.slots.toList.take s.depth

def push (s : CallStack) (address : UInt16) : CallStack :=
  if h : s.depth < s.slots.size then
    ⟨s.slots.set s.depth address, s.depth + 1, by simpa using Nat.succ_le_of_lt h⟩
  else
    ⟨s.slots.push address, s.depth + 1, by simpa using s.depth_le⟩

-- Takes the innermost entry. An empty stack gives address zero and stays as it
-- is.
def pop (s : CallStack) : UInt16 × CallStack :=
  if h : s.depth = 0 then (0, s)
  else
    have := s.depth_le
    (s.slots[s.depth - 1], ⟨s.slots, s.depth - 1, by omega⟩)

theorem new_of_lt {capacity : Nat} (h : 2 * capacity < allocationLimit) :
    new capacity = .ok (empty capacity) := by
  rw [new, allocate_of_lt 0 h]
  rfl

theorem new_of_le {capacity : Nat} (h : allocationLimit ≤ 2 * capacity) :
    new capacity = .error .capacity := by
  rw [new, allocate_of_le 0 h]
  rfl

theorem live_empty (capacity : Nat) : (empty capacity).live = [] := by
  simp [empty, live]

theorem length_live (s : CallStack) : s.live.length = s.depth := by
  simpa [live] using Nat.min_eq_left s.depth_le

theorem live_push (s : CallStack) (address : UInt16) :
    (s.push address).live = s.live ++ [address] := by
  unfold push
  split
  · rename_i h
    simp only [live, Array.toList_set]
    rw [List.take_add_one, List.take_set_of_le (Nat.le_refl _), List.getElem?_set_self (by simpa using h)]
    rfl
  · have h : s.depth = s.slots.toList.length := by
      have := s.depth_le
      rw [Array.length_toList]
      omega
    simp only [live, Array.toList_push, h]
    rw [List.take_of_length_le (by simp), List.take_length]

theorem depth_push (s : CallStack) (address : UInt16) : (s.push address).depth = s.depth + 1 := by
  unfold push
  split <;> rfl

theorem capacity_push (s : CallStack) (address : UInt16) :
    (s.push address).capacity = max s.capacity (s.depth + 1) := by
  have hdepth := s.depth_le
  unfold push capacity
  split
  · rw [Array.size_set]
    omega
  · rw [Array.size_push]
    omega

theorem capacity_pop (s : CallStack) : s.pop.2.capacity = s.capacity := by
  unfold pop
  split <;> rfl

theorem live_pop (s : CallStack) : s.pop.2.live = s.live.dropLast := by
  unfold pop
  split
  · simp_all [live]
  · simp only [live]
    rw [List.dropLast_eq_take, List.length_take, Array.length_toList, Nat.min_eq_left s.depth_le,
      List.take_take, Nat.min_eq_left (Nat.sub_le _ _)]

theorem pop_fst (s : CallStack) : s.pop.1 = s.live.getLast?.getD 0 := by
  unfold pop
  split
  · simp_all [live]
  · have := s.depth_le
    simp only [live, List.getLast?_take, Array.getElem?_toList]
    rw [if_neg (by omega), Array.getElem?_eq_getElem (by omega)]
    rfl

end CallStack

end Chip8
