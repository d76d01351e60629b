import Chip8.Proofs.Emulator.Clocks
import Mathlib.Algebra.GroupWithZero.Nat

namespace Chip8

-- So many steps in ticks of these lengths use no more time than there is, and each
-- of them loses at most one tick.
structure KeepsPace (period steps : Nat) (deltas : List Nat) : Prop where
  steps_le : steps ≤ deltas.length
  steps_mul_le : steps * period ≤ deltas.sum
  sum_lt : ∀ bound, (∀ delta ∈ deltas, delta ≤ bound) →
    deltas.sum < steps * (period + bound) + period

namespace Timer

def steps (t : Timer) (deltas : List Nat) : Nat := (t.readings deltas).countP Reading.stepped

section Steps

variable (t : Timer) (delta : Nat) (rest : List Nat)

theorem steps_nil : t.steps [] = 0 := rfl

theorem steps_cons :
    t.steps (delta :: rest) = (t.tick delta).steps rest + if t.due delta then 1 else 0 :=
  List.countP_cons

theorem steps_le_length (deltas : List Nat) : t.steps deltas ≤ deltas.length := by
  rw [← t.length_readings deltas]
  exact List.countP_le_length

-- A step uses up a period, and a tick without one only adds to what is held.
theorem period_add_elapsed_tick_le :
    (if t.due delta then 1 else 0) * t.period + (t.tick delta).elapsed ≤ t.elapsed + delta := by
  have hsum : addTime t.elapsed delta ≤ t.elapsed + delta := Nat.min_le_left _ _
  rw [elapsed_tick]
  by_cases hdue : t.due delta = true
  · have hperiod : t.period ≤ addTime t.elapsed delta := of_decide_eq_true hdue
    simp only [hdue, if_true, Nat.one_mul]
    omega
  · simp only [hdue, Bool.false_eq_true, if_false, Nat.zero_mul]
    omega

theorem steps_mul_period_le (deltas : List Nat) :
    t.steps deltas * t.period + (t.after deltas).elapsed ≤ t.elapsed + deltas.sum := by
  induction deltas generalizing t with
  | nil => simp [steps_nil]
  | cons delta rest ih =>
    have hstep := t.period_add_elapsed_tick_le delta
    have hrest := ih (t.tick delta)
    rw [period_tick] at hrest
    rw [steps_cons, after_cons, List.sum_cons, Nat.add_mul]
    omega

end Steps

section Bounds

variable {t : Timer} {bound : Nat}

-- A step drops less than its tick, since less than a period was held before. A
-- tick without a step stays below the longest time, so its sum is exact.
theorem elapsed_add_le {delta : Nat} (hheld : t.elapsed < t.period) (hdelta : delta ≤ bound) :
    t.elapsed + delta ≤
      (if t.due delta then 1 else 0) * (t.period + bound) + (t.tick delta).elapsed := by
  have hperiod := t.period_le_longest
  rw [elapsed_tick]
  by_cases hdue : t.due delta = true
  · simp only [hdue, if_true, Nat.one_mul]
    omega
  · have hsum : addTime t.elapsed delta < t.period :=
      Nat.lt_of_not_le fun hle => hdue (decide_eq_true hle)
    simp only [hdue, Bool.false_eq_true, if_false, Nat.zero_mul]
    unfold addTime at hsum ⊢
    omega

theorem elapsed_add_sum_le {deltas : List Nat} (hheld : t.elapsed < t.period)
    (hdeltas : ∀ delta ∈ deltas, delta ≤ bound) :
    t.elapsed + deltas.sum ≤
      t.steps deltas * (t.period + bound) + (t.after deltas).elapsed := by
  induction deltas generalizing t with
  | nil => simp [steps_nil]
  | cons delta rest ih =>
    have hstep := elapsed_add_le hheld (hdeltas delta (List.mem_cons_self ..))
    have hnext := elapsed_tick_lt_period (Nat.zero_lt_of_lt hheld) delta
    have hrest := ih hnext fun later hlater => hdeltas later (List.mem_cons_of_mem _ hlater)
    rw [period_tick] at hrest
    rw [steps_cons, after_cons, List.sum_cons, Nat.add_mul]
    omega

theorem keepsPace_of_elapsed_eq_zero (hperiod : 0 < t.period) (hempty : t.elapsed = 0)
    (deltas : List Nat) : KeepsPace t.period (t.steps deltas) deltas where
  steps_le := t.steps_le_length deltas
  steps_mul_le := by
    have hused := t.steps_mul_period_le deltas
    omega
  sum_lt bound hdeltas := by
    have hheld : t.elapsed < t.period := hempty ▸ hperiod
    have hused := elapsed_add_sum_le hheld hdeltas
    have hlast := elapsed_after_lt_period hheld deltas
    rw [period_after] at hlast
    omega

end Bounds

end Timer

namespace Emulator

def steps (e : Emulator) (clock : Clock) (events : List Event) : Nat :=
  (e.readings clock events).countP Timer.Reading.stepped

def executions (e : Emulator) (events : List Event) : Nat :=
  ((e.responses events).filterMap Response.executed?).count true

section Run

variable (e : Emulator) (events : List Event)

theorem steps_eq (clock : Clock) : e.steps clock events = (clock.timer e).steps (deltas events) := by
  rw [steps, readings_eq (Timer.SameTime.refl _)]
  rfl

theorem executions_eq : e.executions events = e.steps .instruction events := by
  rw [executions, executed_responses, List.count, List.countP_map, steps]
  congr 1
  funext reading
  exact beq_true _

end Run

-- A clock whose period is not zero never runs ahead of its time and falls behind
-- by less than one tick for each step. No run of an emulator changes that, and
-- each step of its instruction clock executes one instruction.
theorem clocks_keep_pace {frequency : UInt32}
    (hperiod : 0 < (Timer.ofFrequency frequency).period) :
    (∀ deltas : List Nat, KeepsPace (Timer.ofFrequency frequency).period
      ((Timer.ofFrequency frequency).steps deltas) deltas) ∧
    ∀ (c : Config) (unseeded : RandomKey) (font program : List UInt8) (e : Emulator)
      (events : List Event), new c unseeded font program = .ok e →
      (∀ clock : Clock, clock.rate c = frequency →
        KeepsPace (Timer.ofFrequency frequency).period (e.steps clock events) (deltas events)) ∧
      (c.instructionRate = frequency →
        KeepsPace (Timer.ofFrequency frequency).period (e.executions events) (deltas events)) := by
  have htimer := Timer.keepsPace_of_elapsed_eq_zero hperiod rfl
  refine ⟨htimer, fun c unseeded font program e events hnew => ?_⟩
  have hclock (clock : Clock) (hrate : clock.rate c = frequency) :
      KeepsPace (Timer.ofFrequency frequency).period (e.steps clock events) (deltas events) := by
    rw [steps_eq, timer_of_new hnew clock, hrate]
    exact htimer (deltas events)
  refine ⟨hclock, fun hrate => ?_⟩
  rw [executions_eq]
  exact hclock .instruction hrate

-- Two steps a second. The second tick overshoots the period, and the third is the
-- longest there is.
def unevenTicks : List Nat := [300000000, 300000000, Timer.longest, 100000000]

theorem clocks_keep_pace_unevenTicks :
    0 < (Timer.ofFrequency 2).period ∧ KeepsPace 500000000 2 unevenTicks := by
  have hperiod : (Timer.ofFrequency 2).period = 500000000 := by decide
  have hsteps : (Timer.ofFrequency 2).steps unevenTicks = 2 := by decide
  have hpos : 0 < (Timer.ofFrequency 2).period := by
    rw [hperiod]
    decide
  have hpace := (clocks_keep_pace hpos).1 unevenTicks
  rw [hperiod, hsteps] at hpace
  exact ⟨hpos, hpace⟩

end Emulator

end Chip8
