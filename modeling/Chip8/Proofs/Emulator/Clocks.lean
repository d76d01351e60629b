import Chip8.Proofs.Emulator.Conformance
import Chip8.Proofs.Machine.Timekeeping

namespace Chip8

inductive Clock where
  | instruction
  | delay
  | frame
  deriving DecidableEq, Repr

namespace Clock

def rate (c : Config) : Clock → UInt32
  | instruction => c.instructionRate
  | delay => c.delayRate
  | frame => c.frameRate

def timer (e : Emulator) : Clock → Timer
  | instruction => e.machine.clock
  | delay => e.machine.delay
  | frame => e.frameClock

end Clock

namespace Emulator

def Event.delta? : Event → Option Nat
  | .update delta => some delta
  | _ => none

def deltas (events : List Event) : List Nat := events.filterMap Event.delta?

-- What each update of a run shows of a clock: whether it stepped, and the time
-- that it holds after the update.
def readings (e : Emulator) (clock : Clock) : List Event → List Timer.Reading
  | [] => []
  | event :: rest =>
    let next := (e.handle event).2
    (event.delta?.map fun delta =>
      ⟨(clock.timer e).due delta, (clock.timer next).elapsed⟩).toList ++ next.readings clock rest

def Response.executed? : Response → Option Bool
  | .report r => some r.executed
  | _ => none

-- An update ticks every clock once, and then runs one cycle if the instruction
-- clock has stepped and none if it has not.
structure TicksOnce (e : Emulator) (delta : Nat) : Prop where
  executed_eq : (e.update delta).1.executed = e.machine.clock.due delta
  cycles_eq :
    (e.update delta).1.cycle?.toList =
      (e.machine.timed delta).cycles (e.machine.fed e.keys delta)
  machine_eq :
    (e.update delta).2.machine = (e.machine.timed delta).after (e.machine.fed e.keys delta)
  frameClock_eq : (e.update delta).2.frameClock = e.frameClock.tick delta

section Step

variable (e : Emulator)

theorem ticksOnce (delta : Nat) : e.TicksOnce delta := by
  have htick := e.machine.tick_eq e.keys delta
  have hcycle : (e.update delta).1.cycle? =
    ((e.machine.timed delta).cycles (e.machine.fed e.keys delta)).head? := congrArg Prod.fst htick
  refine ⟨?_, ?_, congrArg Prod.snd htick, rfl⟩
  · rw [Report.executed, hcycle, Machine.fed]
    cases e.machine.clock.due delta <;> rfl
  · rw [hcycle, Machine.fed]
    cases e.machine.clock.due delta <;> rfl

theorem sameTime_update (clock : Clock) (delta : Nat) :
    (clock.timer (e.update delta).2).SameTime ((clock.timer e).tick delta) := by
  cases clock with
  | instruction =>
    show (e.machine.tick e.keys delta).2.clock.SameTime _
    rw [Machine.clock_tick]
    exact Timer.SameTime.refl _
  | delay => exact e.machine.sameTime_delay_tick e.keys delta
  | frame => exact Timer.SameTime.refl _

theorem sameTime_handle (clock : Clock) (event : Event) :
    (clock.timer (e.handle event).2).SameTime ((clock.timer e).after event.delta?.toList) := by
  cases event with
  | update delta => exact e.sameTime_update clock delta
  | setKey key down => cases clock <;> exact Timer.SameTime.refl _
  | takeFrame =>
    have htimer : clock.timer e.takeFrame.2 = clock.timer e := by
      rw [snd_takeFrame]
      cases clock <;> rfl
    show (clock.timer e.takeFrame.2).SameTime (clock.timer e)
    rw [htimer]
    exact Timer.SameTime.refl _

end Step

section Run

variable {e : Emulator}

theorem deltas_cons (event : Event) (rest : List Event) :
    deltas (event :: rest) = event.delta?.toList ++ deltas rest := by
  cases event <;> rfl

theorem sameTime_after (clock : Clock) (events : List Event) :
    (clock.timer (e.after events)).SameTime ((clock.timer e).after (deltas events)) := by
  induction events generalizing e with
  | nil => exact Timer.SameTime.refl _
  | cons event rest ih =>
    rw [after_cons, deltas_cons, Timer.after_append]
    exact ih.trans ((e.sameTime_handle clock event).after _)

theorem readings_eq {clock : Clock} {t : Timer} (h : (clock.timer e).SameTime t)
    (events : List Event) : e.readings clock events = t.readings (deltas events) := by
  induction events generalizing e t with
  | nil => rfl
  | cons event rest ih =>
    have hnext := ih ((e.sameTime_handle clock event).trans (h.after _))
    rw [readings, deltas_cons]
    cases event with
    | update delta =>
      have htick := (e.sameTime_update clock delta).trans (h.tick delta)
      exact congrArg₂ List.cons (congrArg₂ _ (h.due_eq delta) htick.elapsed_eq) hnext
    | setKey key down => exact hnext
    | takeFrame => exact hnext

theorem executed_responses (events : List Event) :
    (e.responses events).filterMap Response.executed? =
      (e.readings .instruction events).map Timer.Reading.stepped := by
  induction events generalizing e with
  | nil => rfl
  | cons event rest ih =>
    cases event with
    | update delta => exact congrArg₂ List.cons (e.ticksOnce delta).executed_eq ih
    | setKey key down => exact ih
    | takeFrame => exact ih

end Run

section Built

variable {c : Config} {unseeded : RandomKey} {font program : List UInt8} {e : Emulator}

theorem timer_of_new (hnew : new c unseeded font program = .ok e) (clock : Clock) :
    clock.timer e = .ofFrequency (clock.rate c) := by
  obtain ⟨-, -, -, -, rfl⟩ := new_eq_ok_iff.mp hnew
  cases clock <;> rfl

theorem readings_of_new (hnew : new c unseeded font program = .ok e) (clock : Clock)
    (events : List Event) :
    e.readings clock events = (Timer.ofFrequency (clock.rate c)).readings (deltas events) := by
  rw [← timer_of_new hnew clock]
  exact readings_eq (Timer.SameTime.refl _) events

-- Each clock of a run keeps the time of a timer of its rate that is fed the same
-- times. So two runs with the same rate and the same times agree on it, whatever
-- else they have; and cycles are run at the steps of the instruction clock.
theorem clocks_keep_own_time (hnew : new c unseeded font program = .ok e)
    (events : List Event) :
    (∀ clock : Clock,
      e.readings clock events = (Timer.ofFrequency (clock.rate c)).readings (deltas events)) ∧
    (∀ (clock : Clock) (c' : Config) (unseeded' : RandomKey) (font' program' : List UInt8)
      (e' : Emulator) (events' : List Event), new c' unseeded' font' program' = .ok e' →
      clock.rate c' = clock.rate c → deltas events' = deltas events →
      e'.readings clock events' = e.readings clock events) ∧
    (e.responses events).filterMap Response.executed? =
      ((Timer.ofFrequency c.instructionRate).readings (deltas events)).map
        Timer.Reading.stepped ∧
    ∀ delta, (e.after events).TicksOnce delta := by
  refine ⟨fun clock => readings_of_new hnew clock events, ?_, ?_, (e.after events).ticksOnce⟩
  · intro clock c' unseeded' font' program' e' events' hnew' hrate hdeltas
    rw [readings_of_new hnew', readings_of_new hnew, hrate, hdeltas]
  · rw [executed_responses]
    exact congrArg _ (readings_of_new hnew .instruction events)

-- Three rates, and a program that sets the delay count, runs into a word that is
-- no instruction and waits for a key.
def unevenRates : Config where
  memorySize := 16
  programAddress := 0
  fontAddress := 0
  instructionRate := 4
  delayRate := 2
  frameRate := 1

def unevenProgram : List UInt8 := [0x60, 0x09, 0xF0, 0x15, 0xFF, 0xFF, 0xF0, 0x0A]

def quarter : Event := .update 250000000

theorem clocks_keep_own_time_uneven :
    ∃ e, new unevenRates (Vector.replicate 8 0) [] unevenProgram = .ok e ∧
      e.readings .delay [quarter, quarter, .takeFrame, quarter, .setKey 3 true, quarter] =
        [⟨false, 250000000⟩, ⟨true, 0⟩, ⟨false, 250000000⟩, ⟨true, 0⟩] := by
  have hnew : new unevenRates (Vector.replicate 8 0) [] unevenProgram =
      .ok (built unevenRates (Vector.replicate 8 0) [] unevenProgram) :=
    new_eq_ok_iff.mpr ⟨by decide, by decide, by decide, by decide, rfl⟩
  refine ⟨_, hnew, ?_⟩
  rw [(clocks_keep_own_time hnew _).1 .delay]
  decide +kernel

end Built

section Periods

variable {c : Config} {unseeded : RandomKey} {font program : List UInt8} {e : Emulator}

def StaysWithinPeriod (clock : Clock) (c : Config) : Prop :=
  ∀ unseeded font program e, new c unseeded font program = .ok e → ∀ events delta,
    (clock.timer ((e.after events).update delta).2).elapsed <
      (clock.timer ((e.after events).update delta).2).period

-- An update without time steps no clock, executes nothing and changes nothing.
def StandsStill (e : Emulator) : Prop :=
  (∀ clock : Clock, (clock.timer e).due 0 = false) ∧ e.update 0 = (⟨none, e.frameDue⟩, e)

theorem standsStill (h : ∀ clock : Clock, (clock.timer e).elapsed < (clock.timer e).period) :
    e.StandsStill := by
  have hdue (clock : Clock) : (clock.timer e).due 0 = false :=
    Bool.eq_false_iff.mpr (mt Timer.due_zero_iff.mp (Nat.not_le_of_lt (h clock)))
  have hdelay : e.machine.delay.tick 0 = e.machine.delay := Timer.tick_zero (h .delay)
  have hclock : e.machine.clock.tick 0 = e.machine.clock := Timer.tick_zero (h .instruction)
  have hframe : e.frameClock.tick 0 = e.frameClock := Timer.tick_zero (h .frame)
  have hfed : e.machine.fed e.keys 0 = [] :=
    if_neg (Bool.eq_false_iff.mp (hdue .instruction))
  have htick : e.machine.tick e.keys 0 = (none, e.machine) := by
    rw [Machine.tick_eq, hfed, Machine.timed, hdelay, hclock]
    rfl
  have hframeDue : (e.frameDue || e.frameClock.due 0) = e.frameDue := by
    have hnot : e.frameClock.due 0 = false := hdue .frame
    rw [hnot, Bool.or_false]
  refine ⟨hdue, ?_⟩
  rw [update, htick]
  simp only [hframeDue, hframe]

theorem elapsed_lt_period_after (hnew : new c unseeded font program = .ok e) {clock : Clock}
    (hrate : (clock.rate c).toNat ≤ Timer.second) (events : List Event) :
    (clock.timer (e.after events)).elapsed < (clock.timer (e.after events)).period := by
  have hsame := sameTime_after (e := e) clock events
  rw [timer_of_new hnew clock] at hsame
  rw [hsame.elapsed_eq, hsame.period_eq]
  exact Timer.elapsed_after_lt_period (Timer.period_ofFrequency_pos_iff.mpr hrate) _

theorem staysWithinPeriod_iff (clock : Clock) :
    StaysWithinPeriod clock c ↔
      (c.validate = .ok () → c.Allocatable → (clock.rate c).toNat ≤ Timer.second) := by
  constructor
  · intro h hvalidate hfits
    have hnew := new_blank hvalidate hfits
    have hlt := h _ _ _ _ hnew [] 0
    have hsame := sameTime_update (built c (Vector.replicate 8 0) [] []) clock 0
    rw [timer_of_new hnew clock] at hsame
    rw [after_nil, hsame.period_eq, Timer.period_tick] at hlt
    exact Timer.period_ofFrequency_pos_iff.mp (Nat.zero_lt_of_lt hlt)
  · intro h unseeded font program e hnew events delta
    obtain ⟨hvalidate, hfits, -⟩ := new_eq_ok_iff.mp hnew
    have hrate := h hvalidate hfits
    have hlt := elapsed_lt_period_after hnew hrate (events ++ [.update delta])
    rwa [after_append] at hlt

-- Each clock stays within its period exactly if its rate leaves it one, which a
-- rate above a billion does not; and updates without time stand still exactly if
-- every rate leaves a period.
theorem clocks_stay_within_period_iff (c : Config) :
    (∀ clock : Clock, StaysWithinPeriod clock c ↔
      (c.validate = .ok () → c.Allocatable → (clock.rate c).toNat ≤ Timer.second)) ∧
    ((∀ unseeded font program e, new c unseeded font program = .ok e →
        ∀ events, (e.after events).StandsStill) ↔
      (c.validate = .ok () → c.Allocatable →
        ∀ clock : Clock, (clock.rate c).toNat ≤ Timer.second)) := by
  refine ⟨staysWithinPeriod_iff, ?_, ?_⟩
  · intro h hvalidate hfits clock
    have hnew := new_blank hvalidate hfits
    have hdue := (h _ _ _ _ hnew []).1 clock
    rw [after_nil, timer_of_new hnew clock, Bool.eq_false_iff, ne_eq, Timer.due_zero_iff] at hdue
    exact Timer.period_ofFrequency_pos_iff.mp (Nat.lt_of_not_le hdue)
  · intro h unseeded font program e hnew events
    obtain ⟨hvalidate, hfits, -⟩ := new_eq_ok_iff.mp hnew
    have hrates := h hvalidate hfits
    exact standsStill fun clock => elapsed_lt_period_after hnew (hrates clock) events

def fastClock : Config where
  instructionRate := 2000000000

theorem fast_clock_steps_without_time :
    ∃ e, new fastClock (Vector.replicate 8 0) [] [] = .ok e ∧
      (e.update 0).1.executed = true ∧
      ¬ (Clock.timer (e.update 0).2 .instruction).elapsed <
        (Clock.timer (e.update 0).2 .instruction).period := by
  have hnew := new_blank (c := fastClock) (by decide) (by decide)
  have hsame := sameTime_update (built fastClock (Vector.replicate 8 0) [] []) .instruction 0
  refine ⟨_, hnew, ?_, ?_⟩
  · rw [(ticksOnce _ 0).executed_eq]
    decide
  · rw [hsame.period_eq, hsame.elapsed_eq]
    decide

end Periods

end Emulator

end Chip8
