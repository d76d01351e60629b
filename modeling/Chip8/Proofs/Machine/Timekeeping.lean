import Chip8.Proofs.Machine.Effect

namespace Chip8

namespace Timer

-- What a tick shows of a timer: whether it stepped, and the time that it holds
-- afterwards.
structure Reading where
  stepped : Bool
  elapsed : Nat
  deriving DecidableEq, Repr

def after (t : Timer) (deltas : List Nat) : Timer := deltas.foldl tick t

def readings (t : Timer) : List Nat → List Reading
  | [] => []
  | delta :: rest => ⟨t.due delta, (t.tick delta).elapsed⟩ :: (t.tick delta).readings rest

@[simp] theorem after_nil (t : Timer) : t.after [] = t := rfl

@[simp] theorem after_cons (t : Timer) (delta : Nat) (rest : List Nat) :
    t.after (delta :: rest) = (t.tick delta).after rest :=
  rfl

theorem after_append (t : Timer) (first second : List Nat) :
    t.after (first ++ second) = (t.after first).after second :=
  List.foldl_append

theorem readings_append (t : Timer) (first second : List Nat) :
    t.readings (first ++ second) = t.readings first ++ (t.after first).readings second := by
  induction first generalizing t with
  | nil => rfl
  | cons delta rest ih => exact congrArg (List.cons _) (ih (t.tick delta))

theorem length_readings (t : Timer) (deltas : List Nat) :
    (t.readings deltas).length = deltas.length := by
  induction deltas generalizing t with
  | nil => rfl
  | cons delta rest ih => simp [readings, ih]

@[simp] theorem frequency_after (t : Timer) (deltas : List Nat) :
    (t.after deltas).frequency = t.frequency := by
  induction deltas generalizing t with
  | nil => rfl
  | cons delta rest ih => rw [after_cons, ih, frequency_tick]

@[simp] theorem period_after (t : Timer) (deltas : List Nat) :
    (t.after deltas).period = t.period := by
  simp [period]

structure SameTime (t t' : Timer) : Prop where
  frequency_eq : t.frequency = t'.frequency
  elapsed_eq : t.elapsed = t'.elapsed

section SameTime

variable {t t' : Timer}

theorem SameTime.refl (t : Timer) : t.SameTime t := ⟨rfl, rfl⟩

theorem SameTime.trans {t'' : Timer} (h : t.SameTime t') (h' : t'.SameTime t'') :
    t.SameTime t'' :=
  ⟨h.frequency_eq.trans h'.frequency_eq, h.elapsed_eq.trans h'.elapsed_eq⟩

theorem SameTime.period_eq (h : t.SameTime t') : t.period = t'.period := by
  rw [period, period, h.frequency_eq]

theorem SameTime.due_eq (h : t.SameTime t') (delta : Nat) : t.due delta = t'.due delta := by
  rw [due, due, h.period_eq, h.elapsed_eq]

theorem elapsed_tick (t : Timer) (delta : Nat) :
    (t.tick delta).elapsed = if t.due delta then 0 else addTime t.elapsed delta := by
  unfold tick
  split <;> rfl

theorem SameTime.tick (h : t.SameTime t') (delta : Nat) :
    (t.tick delta).SameTime (t'.tick delta) := by
  refine ⟨by rw [frequency_tick, frequency_tick, h.frequency_eq], ?_⟩
  rw [elapsed_tick, elapsed_tick, h.due_eq, h.elapsed_eq]

theorem SameTime.after (h : t.SameTime t') (deltas : List Nat) :
    (t.after deltas).SameTime (t'.after deltas) := by
  induction deltas generalizing t t' with
  | nil => exact h
  | cons delta rest ih => exact ih (h.tick delta)

theorem sameTime_set (t : Timer) (value : UInt32) : (t.set value).SameTime t := ⟨rfl, rfl⟩

end SameTime

section Periods

variable {t : Timer}

-- A billion steps a second is the fastest that whole nanoseconds can tell from
-- no time at all.
theorem period_ofFrequency_pos_iff {frequency : UInt32} :
    0 < (ofFrequency frequency).period ↔ frequency.toNat ≤ second := by
  show 0 < (if frequency = 0 then longest else second / frequency.toNat) ↔ _
  split
  · rename_i h
    subst h
    exact iff_of_true (by decide) (by decide)
  · rename_i h
    have hpos : 0 < frequency.toNat := Nat.pos_of_ne_zero fun hzero => h (UInt32.toNat_inj.mp hzero)
    exact Nat.div_pos_iff.trans (and_iff_right hpos)

theorem period_le_longest (t : Timer) : t.period ≤ longest := by
  unfold period
  split
  · exact Nat.le_refl _
  · exact Nat.le_trans (Nat.div_le_self _ _) (by decide)

theorem elapsed_tick_lt_period (h : 0 < t.period) (delta : Nat) :
    (t.tick delta).elapsed < (t.tick delta).period := by
  rw [period_tick, elapsed_tick]
  split
  · exact h
  · rename_i hdue
    exact Nat.lt_of_not_le fun hle => hdue (decide_eq_true hle)

theorem elapsed_after_lt_period (h : t.elapsed < t.period) (deltas : List Nat) :
    (t.after deltas).elapsed < (t.after deltas).period := by
  induction deltas generalizing t with
  | nil => exact h
  | cons delta rest ih => exact ih (elapsed_tick_lt_period (Nat.zero_lt_of_lt h) delta)

theorem due_zero_iff : t.due 0 = true ↔ t.period ≤ t.elapsed := by
  have hle := t.period_le_longest
  rw [due, decide_eq_true_eq, addTime, Nat.add_zero]
  omega

theorem tick_zero (h : t.elapsed < t.period) : t.tick 0 = t := by
  have hle := t.period_le_longest
  have hdue : ¬ t.due 0 = true := mt due_zero_iff.mp (Nat.not_le_of_lt h)
  have hsame : addTime t.elapsed 0 = t.elapsed := Nat.min_eq_left (by omega)
  rw [tick, if_neg hdue, hsame]

end Periods

end Timer

namespace Machine

section Ticks

variable (m : Machine) (keys : Keypad) (delta : Nat)

-- The snapshots that a tick gives to a run: one for a step of the instruction
-- clock, and none without it.
def fed : List Keypad := if m.clock.due delta then [keys] else []

theorem tick_eq :
    m.tick keys delta =
      (((m.timed delta).cycles (m.fed keys delta)).head?,
        (m.timed delta).after (m.fed keys delta)) := by
  unfold tick fed
  cases m.clock.due delta <;> rfl

theorem clock_tick : (m.tick keys delta).2.clock = m.clock.tick delta :=
  tick_induction (motive := fun next => next.clock = m.clock.tick delta) rfl
    (clock_execute (m.timed delta).advance keys _ _)

theorem delay_tick :
    (m.tick keys delta).2.delay =
      match (m.tick keys delta).1.map Cycle.instruction with
      | some (.setDelay x) => (m.delay.tick delta).set (m.get x).toUInt32
      | _ => m.delay.tick delta := by
  cases hdue : m.clock.due delta with
  | false =>
    rw [tick_of_not_due hdue]
    rfl
  | true =>
    rw [tick_of_due hdue]
    refine (delay_execute (m.timed delta).advance keys _ _).trans ?_
    show _ = match some (Instruction.decode (m.timed delta).nextOpcode) with
      | some (.setDelay x) => (m.delay.tick delta).set (m.get x).toUInt32
      | _ => m.delay.tick delta
    cases Instruction.decode (m.timed delta).nextOpcode <;> rfl

theorem sameTime_delay_tick : (m.tick keys delta).2.delay.SameTime (m.delay.tick delta) := by
  rw [delay_tick]
  split
  · exact Timer.sameTime_set _ _
  · exact Timer.SameTime.refl _

end Ticks

end Machine

end Chip8
