namespace Chip8

structure Timer where
  value : UInt32
  frequency : UInt32
  -- Time since the last step. What a step overshoots is dropped.
  elapsed : Nat
  deriving DecidableEq

namespace Timer

-- The longest time there is: the sum of two times stops here.
def longest : Nat := 18446744073709551615999999999

def second : Nat := 1000000000

def addTime (a b : Nat) : Nat := min (a + b) longest

def ofFrequency (frequency : UInt32) : Timer := ⟨0, frequency, 0⟩

-- The time from step to step. A timer of frequency zero waits for the longest
-- time.
def period (t : Timer) : Nat :=
  if t.frequency = 0 then longest else second / t.frequency.toNat

def due (t : Timer) (delta : Nat) : Bool :=
  decide (t.period ≤ addTime t.elapsed delta)

def nextValue (t : Timer) : UInt32 :=
  if t.value = 0 then t.frequency else t.value - 1

def tick (t : Timer) (delta : Nat) : Timer :=
  if t.due delta then { t with value := t.nextValue, elapsed := 0 }
  else { t with elapsed := addTime t.elapsed delta }

def set (t : Timer) (value : UInt32) : Timer := { t with value }

@[simp] theorem frequency_tick (t : Timer) (delta : Nat) :
    (t.tick delta).frequency = t.frequency := by
  unfold tick
  split <;> rfl

@[simp] theorem period_tick (t : Timer) (delta : Nat) : (t.tick delta).period = t.period := by
  simp [period]

end Timer

end Chip8
