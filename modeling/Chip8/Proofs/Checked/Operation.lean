import Chip8.Machine.Basic

namespace Chip8

inductive Trap where
  | indexOutOfRange
  | zeroDivisor
  | overflow
  | underflow
  | lossyCast
  deriving DecidableEq, Repr

abbrev Checked := Except Trap

namespace Checked

-- Sums and products stay below `limit`, the number of values of their word.
def add (limit a b : Nat) : Checked Nat := if a + b < limit then pure (a + b) else throw .overflow

def mul (limit a b : Nat) : Checked Nat := if a * b < limit then pure (a * b) else throw .overflow

def sub (a b : Nat) : Checked Nat := if b ≤ a then pure (a - b) else throw .underflow

def rem (a b : Nat) : Checked Nat := if b ≠ 0 then pure (a % b) else throw .zeroDivisor

def word16 (a : Nat) : Checked UInt16 :=
  if a < 0x10000 then pure (UInt16.ofNat a) else throw .lossyCast

-- Bit `column` of a byte, counted from its left end by shifting a mask.
def bit (byte : UInt8) (column : Nat) : Checked Bool :=
  if column < 8 then pure (byte.toNat.testBit (7 - column)) else throw .overflow

def register (r : Nat) : Checked Nibble :=
  if h : r < 16 then pure ⟨r, h⟩ else throw .indexOutOfRange

variable {α β : Type}

def get (xs : Array α) (i : Nat) : Checked α :=
  if h : i < xs.size then pure xs[i] else throw .indexOutOfRange

def set (xs : Array α) (i : Nat) (value : α) : Checked (Array α) :=
  if h : i < xs.size then pure (xs.set i value h) else throw .indexOutOfRange

theorem add_eq {limit a b : Nat} (h : a + b < limit) : add limit a b = pure (a + b) := if_pos h

theorem mul_eq {limit a b : Nat} (h : a * b < limit) : mul limit a b = pure (a * b) := if_pos h

theorem sub_eq {a b : Nat} (h : b ≤ a) : sub a b = pure (a - b) := if_pos h

theorem rem_eq {a b : Nat} (h : b ≠ 0) : rem a b = pure (a % b) := if_pos h

theorem word16_eq {a : Nat} (h : a < 0x10000) : word16 a = pure (UInt16.ofNat a) := if_pos h

theorem bit_eq {byte : UInt8} {column : Nat} (h : column < 8) :
    bit byte column = pure (byte.toNat.testBit (7 - column)) :=
  if_pos h

theorem register_eq (r : Nibble) : register r.val = pure r := dif_pos r.val_lt

theorem get_eq {xs : Array α} {i : Nat} {value : α} (h : xs[i]? = some value) :
    get xs i = pure value := by
  obtain ⟨hlt, hvalue⟩ := Array.getElem?_eq_some_iff.mp h
  rw [get, dif_pos hlt, hvalue]

theorem set_eq {xs : Array α} {i : Nat} (h : i < xs.size) (value : α) :
    set xs i value = pure (xs.set i value h) :=
  dif_pos h

-- A loop traps in no round if no round traps, as long as what the rounds rely on
-- lasts.
theorem foldlM_eq {P : β → Prop} {step : β → α → Checked β} {plain : β → α → β} {xs : List α}
    (hstep : ∀ x ∈ xs, ∀ b, P b → step b x = pure (plain b x) ∧ P (plain b x)) {b : β} (hb : P b) :
    xs.foldlM step b = pure (xs.foldl plain b) ∧ P (xs.foldl plain b) := by
  induction xs generalizing b with
  | nil => exact ⟨rfl, hb⟩
  | cons x rest ih =>
    obtain ⟨heq, hnext⟩ := hstep x (List.mem_cons_self ..) b hb
    rw [List.foldlM_cons, heq, pure_bind, List.foldl_cons]
    exact ih (fun y hy => hstep y (List.mem_cons_of_mem _ hy)) hnext

theorem mapM_eq {step : α → Checked β} {plain : α → β} {xs : List α}
    (hstep : ∀ x ∈ xs, step x = pure (plain x)) : xs.mapM step = pure (xs.map plain) := by
  induction xs with
  | nil => rfl
  | cons x rest ih =>
    have hrest := ih fun y hy => hstep y (List.mem_cons_of_mem _ hy)
    rw [List.mapM_cons, hstep x (List.mem_cons_self ..), pure_bind, hrest, pure_bind, List.map_cons]

end Checked

end Chip8
