import Chip8.Proofs.Emulator.Clocks

namespace Chip8

namespace Timer

theorem addTime_assoc (a b c : Nat) : addTime (addTime a b) c = addTime a (addTime b c) := by
  unfold addTime
  omega

section Idle

variable {t : Timer} {first : Nat}

theorem due_eq_false_iff {delta : Nat} :
    t.due delta = false ↔ addTime t.elapsed delta < t.period := by
  rw [due, decide_eq_false_iff_not, Nat.not_le]

theorem not_due_of_not_due_addTime {second : Nat} (h : t.due (addTime first second) = false) :
    t.due first = false := by
  rw [due_eq_false_iff] at h ⊢
  unfold addTime at h ⊢
  omega

theorem elapsed_tick_of_not_due (h : t.due first = false) :
    (t.tick first).elapsed = addTime t.elapsed first := by
  simp [elapsed_tick, h]

theorem due_tick_of_not_due (h : t.due first = false) (second : Nat) :
    (t.tick first).due second = t.due (addTime first second) := by
  rw [due, due, period_tick, elapsed_tick_of_not_due h, addTime_assoc]

theorem tick_tick_of_not_due (h : t.due first = false) (second : Nat) :
    (t.tick first).tick second = t.tick (addTime first second) := by
  have hdue := due_tick_of_not_due h second
  have hheld : t.tick first = { t with elapsed := addTime t.elapsed first } := by simp [tick, h]
  rw [tick, hdue, hheld, addTime_assoc]
  rfl

end Idle

end Timer

namespace Machine

theorem tick_timed {m : Machine} {first : Nat} (hdelay : m.delay.due first = false)
    (hclock : m.clock.due first = false) (keys : Keypad) (second : Nat) :
    (m.timed first).tick keys second = m.tick keys (Timer.addTime first second) := by
  have htimed : (m.timed first).timed second = m.timed (Timer.addTime first second) := by
    simp only [timed, Timer.tick_tick_of_not_due hdelay, Timer.tick_tick_of_not_due hclock]
  have hfed : (m.timed first).fed keys second = m.fed keys (Timer.addTime first second) := by
    simp only [fed, timed, Timer.due_tick_of_not_due hclock]
  rw [tick_eq, tick_eq, htimed, hfed]

end Machine

namespace Emulator

def Idle (e : Emulator) (delta : Nat) : Prop := ∀ clock : Clock, (clock.timer e).due delta = false

def IdleThrough (e : Emulator) : List Nat → Prop
  | [] => True
  | delta :: rest => e.Idle delta ∧ (e.update delta).2.IdleThrough rest

-- The time of several polls and of the update after them, in one. The sum stops
-- at the longest time.
def together (times : List Nat) (last : Nat) : Nat := times.foldr Timer.addTime last

def passed (e : Emulator) (delta : Nat) : Emulator :=
  { e with machine := e.machine.timed delta, frameClock := e.frameClock.tick delta }

section Step

variable {e : Emulator} {first : Nat}

theorem timer_passed (e : Emulator) (delta : Nat) (clock : Clock) :
    clock.timer (e.passed delta) = (clock.timer e).tick delta := by
  cases clock <;> rfl

theorem update_of_idle (h : e.Idle first) :
    e.update first = (⟨none, e.frameDue⟩, e.passed first) := by
  have hclock : e.machine.clock.due first = false := h .instruction
  have hframe : e.frameClock.due first = false := h .frame
  simp [update, passed, Machine.tick_eq, Machine.fed, Machine.cycles, hclock, hframe]

theorem update_passed (h : e.Idle first) (second : Nat) :
    (e.passed first).update second = e.update (Timer.addTime first second) := by
  have hmachine := Machine.tick_timed (h .delay) (h .instruction) e.keys second
  have hdue := Timer.due_tick_of_not_due (h .frame) second
  have hframe := Timer.tick_tick_of_not_due (h .frame) second
  simp only [Clock.timer] at hdue hframe
  simp only [update, passed, hmachine, hdue, hframe]

theorem update_update_of_idle (h : e.Idle first) (second : Nat) :
    (e.update first).2.update second = e.update (Timer.addTime first second) := by
  rw [update_of_idle h, update_passed h]

theorem idle_addTime_iff (second : Nat) :
    e.Idle (Timer.addTime first second) ↔ e.Idle first ∧ (e.update first).2.Idle second := by
  constructor
  · intro h
    have hfirst : e.Idle first := fun clock => Timer.not_due_of_not_due_addTime (h clock)
    refine ⟨hfirst, fun clock => ?_⟩
    rw [update_of_idle hfirst, timer_passed, Timer.due_tick_of_not_due (hfirst clock)]
    exact h clock
  · rintro ⟨hfirst, hsecond⟩ clock
    have hdue := hsecond clock
    rwa [update_of_idle hfirst, timer_passed, Timer.due_tick_of_not_due (hfirst clock)] at hdue

end Step

section Run

variable {e : Emulator}

-- Time that is idle as a whole is idle in every part, however it is divided.
theorem idleThrough_iff (times : List Nat) (last : Nat) :
    e.IdleThrough (times ++ [last]) ↔ e.Idle (together times last) := by
  induction times generalizing e with
  | nil => simp [IdleThrough, together]
  | cons delta rest ih =>
    rw [List.cons_append, IdleThrough, ih]
    exact (idle_addTime_iff _).symm

theorem update_after_polls {times : List Nat} (h : e.IdleThrough times) (last : Nat) :
    (e.after (times.map .update)).update last = e.update (together times last) := by
  induction times generalizing e with
  | nil => rfl
  | cons delta rest ih =>
    obtain ⟨hfirst, hrest⟩ := h
    have hlast := ih hrest
    rw [update_update_of_idle hfirst] at hlast
    exact hlast

theorem responses_polls {times : List Nat} (h : e.IdleThrough times) :
    e.responses (times.map .update) =
      List.replicate times.length (.report ⟨none, e.frameDue⟩) := by
  induction times generalizing e with
  | nil => rfl
  | cons delta rest ih =>
    obtain ⟨hfirst, hrest⟩ := h
    have hlater := ih hrest
    rw [update_of_idle hfirst] at hlater
    have hreport : (e.handle (.update delta)).1 = .report ⟨none, e.frameDue⟩ := by
      simp only [handle, update_of_idle hfirst]
    have hnext : (e.handle (.update delta)).2 = e.passed delta := by
      simp only [handle, update_of_idle hfirst]
    rw [List.map_cons, responses, hreport, hnext, hlater, List.length_cons, List.replicate_succ]
    rfl

end Run

-- Two updates, the first of them idle, are one by the sum of their times: the
-- report is the same, and so is the emulator. By induction this holds of any
-- number of idle polls, and idle time may be divided into polls in any way; a
-- run with the polls gives back what the run without them does, but for the
-- polls' own reports of nothing executed.
theorem idle_polls_are_invisible (s : Emulator) :
    (∀ first second, s.Idle first →
      (s.update first).2.update second = s.update (Timer.addTime first second)) ∧
    (∀ times last, s.IdleThrough (times ++ [last]) ↔ s.Idle (together times last)) ∧
    ∀ times, s.IdleThrough times → ∀ last rest,
      (s.after (times.map .update)).update last = s.update (together times last) ∧
      s.after (times.map .update ++ .update last :: rest) =
        s.after (.update (together times last) :: rest) ∧
      s.responses (times.map .update ++ .update last :: rest) =
        List.replicate times.length (.report ⟨none, s.frameDue⟩) ++
          s.responses (.update (together times last) :: rest) := by
  refine ⟨fun first second h => update_update_of_idle h second, idleThrough_iff, ?_⟩
  intro times h last rest
  have hlast := update_after_polls h last
  have hhandle : (s.after (times.map .update)).handle (.update last) =
      s.handle (.update (together times last)) := by
    simp only [handle, hlast]
  refine ⟨hlast, ?_, ?_⟩
  · rw [after_append, after_cons, after_cons, hhandle]
  · rw [responses_append, responses_polls h, responses, responses, hhandle]

-- A quarter of a second, in which the instruction clock steps once, as two tenths
-- and the rest.
theorem idle_polls_are_invisible_tenths :
    ∃ e, new unevenRates (Vector.replicate 8 0) [] unevenProgram = .ok e ∧
      e.IdleThrough [100000000, 100000000] ∧
      (e.after ([100000000, 100000000].map .update)).update 50000000 = e.update 250000000 ∧
      (e.update 250000000).1.executed = true := by
  have hnew : new unevenRates (Vector.replicate 8 0) [] unevenProgram =
      .ok (built unevenRates (Vector.replicate 8 0) [] unevenProgram) :=
    new_eq_ok_iff.mpr ⟨by decide, by decide, by decide, by decide, rfl⟩
  obtain ⟨-, hdivide, hpolls⟩ :=
    idle_polls_are_invisible (built unevenRates (Vector.replicate 8 0) [] unevenProgram)
  have hidle := (hdivide [100000000] 100000000).mpr fun clock => by cases clock <;> decide
  refine ⟨_, hnew, hidle, (hpolls _ hidle 50000000 []).1, ?_⟩
  rw [(ticksOnce _ 250000000).executed_eq]
  decide

end Emulator

end Chip8
