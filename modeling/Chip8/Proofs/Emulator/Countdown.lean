import Chip8.Proofs.Emulator.Pace

namespace Chip8

namespace Timer

-- A count after some steps: it goes down to zero, and then round and round from
-- the frequency.
def countdown (frequency value steps : Nat) : Nat :=
  if steps ≤ value then value - steps
  else frequency - (steps - value - 1) % (frequency + 1)

theorem countdown_zero (frequency value : Nat) : countdown frequency value 0 = value := by
  simp [countdown]

theorem countdown_succ (frequency value steps : Nat) :
    countdown frequency value (steps + 1) =
      countdown frequency (if value = 0 then frequency else value - 1) steps := by
  unfold countdown
  by_cases hvalue : value = 0
  · simp only [hvalue, if_true]
    by_cases hsteps : steps ≤ frequency
    · have hround : (steps + 1 - 0 - 1) % (frequency + 1) = steps :=
        Nat.mod_eq_of_lt (Nat.lt_succ_of_le hsteps)
      rw [if_neg (by omega), if_pos hsteps, hround]
    · -- one round of the frequency and zero has passed
      have hround : (steps + 1 - 0 - 1) % (frequency + 1) =
          (steps - frequency - 1) % (frequency + 1) :=
        Nat.mod_eq_sub_mod (by omega)
      rw [if_neg (by omega), if_neg hsteps, hround]
  · have hleft : steps + 1 - value - 1 = steps - (value - 1) - 1 := by omega
    simp only [hvalue, if_false, hleft]
    by_cases hsteps : steps + 1 ≤ value
    · rw [if_pos hsteps, if_pos (by omega)]
      omega
    · rw [if_neg hsteps, if_neg (by omega)]

theorem toNat_value_tick (t : Timer) (delta : Nat) :
    (t.tick delta).value.toNat =
      countdown t.frequency.toNat t.value.toNat (if t.due delta then 1 else 0) := by
  unfold tick
  by_cases hdue : t.due delta = true
  · have hzero : t.value = 0 ↔ t.value.toNat = 0 := UInt32.toNat_inj.symm
    simp only [hdue, if_true, countdown_succ, countdown_zero, toNat_nextValue, hzero]
  · simp only [hdue, Bool.false_eq_true, if_false, countdown_zero]

theorem countdown_add_tick (t : Timer) (delta steps : Nat) :
    countdown t.frequency.toNat (t.tick delta).value.toNat steps =
      countdown t.frequency.toNat t.value.toNat (steps + if t.due delta then 1 else 0) := by
  rw [toNat_value_tick]
  by_cases hdue : t.due delta = true
  · simp only [hdue, if_true, countdown_succ, countdown_zero]
  · simp only [hdue, Bool.false_eq_true, if_false, countdown_zero, Nat.add_zero]

theorem toNat_value_after (t : Timer) (deltas : List Nat) :
    (t.after deltas).value.toNat =
      countdown t.frequency.toNat t.value.toNat (t.steps deltas) := by
  induction deltas generalizing t with
  | nil => exact (countdown_zero _ _).symm
  | cons delta rest ih => rw [after_cons, ih, frequency_tick, countdown_add_tick, steps_cons]

end Timer

namespace Machine

variable {m : Machine} {keys : Keypad} {delta : Nat} {x : Nibble}

theorem delay_tick_of_setDelay
    (h : (m.tick keys delta).1.map Cycle.instruction = some (.setDelay x)) :
    (m.tick keys delta).2.delay.value = (m.get x).toUInt32 := by
  rw [delay_tick, h]
  rfl

theorem delay_tick_of_ne
    (h : ∀ x, (m.tick keys delta).1.map Cycle.instruction ≠ some (.setDelay x)) :
    (m.tick keys delta).2.delay = m.delay.tick delta := by
  rw [delay_tick]
  split
  · rename_i x hset
    exact absurd hset (h x)
  · rfl

theorem toNat_get_tick_of_readDelay
    (h : (m.tick keys delta).1.map Cycle.instruction = some (.readDelay x)) :
    ((m.tick keys delta).2.get x).toNat = min (m.delay.tick delta).value.toNat 255 := by
  have hread : (m.tick keys delta).2.get x =
      UInt8.ofNat (min (m.delay.tick delta).value.toNat 255) := by
    rw [tick_of_instruction h]
    exact (get_set _ x _ x).trans (if_pos rfl)
  rw [hread, UInt8.toNat_ofNat']
  omega

end Machine

namespace Emulator

def Response.instruction? : Response → Option Instruction
  | .report r => r.cycle?.map Cycle.instruction
  | _ => none

def LeavesDelay (e : Emulator) (events : List Event) : Prop :=
  ∀ response ∈ e.responses events, ∀ x, response.instruction? ≠ some (.setDelay x)

-- The count after the events follows from the one before them, and an Fx07 that
-- comes next reads it after the step of its own update.
structure CountsDown (e : Emulator) (rate : Nat) (events : List Event) : Prop where
  value_eq : (e.after events).machine.delay.value.toNat =
    Timer.countdown rate e.machine.delay.value.toNat (e.steps .delay events)
  read_eq : ∀ event x, ((e.after events).handle event).1.instruction? = some (.readDelay x) →
    (((e.after events).handle event).2.machine.get x).toNat =
      min (Timer.countdown rate e.machine.delay.value.toNat (e.steps .delay (events ++ [event]))) 255

section Run

variable {e : Emulator} {events : List Event}

theorem exists_update_of_instruction? {event : Event} {i : Instruction}
    (h : (e.handle event).1.instruction? = some i) :
    ∃ delta, event = .update delta ∧
      (e.machine.tick e.keys delta).1.map Cycle.instruction = some i := by
  cases event with
  | update delta => exact ⟨delta, rfl, h⟩
  | setKey key down => exact absurd h nofun
  | takeFrame => exact absurd h nofun

theorem delay_handle_of_ne {event : Event}
    (h : ∀ x, (e.handle event).1.instruction? ≠ some (.setDelay x)) :
    (e.handle event).2.machine.delay = e.machine.delay.after event.delta?.toList := by
  cases event with
  | update delta => exact Machine.delay_tick_of_ne h
  | setKey key down => rfl
  | takeFrame =>
    show e.takeFrame.2.machine.delay = e.machine.delay
    rw [snd_takeFrame]

theorem delay_after_of_leavesDelay (h : e.LeavesDelay events) :
    (e.after events).machine.delay = e.machine.delay.after (deltas events) := by
  induction events generalizing e with
  | nil => rfl
  | cons event rest ih =>
    obtain ⟨hfirst, hrest⟩ := List.forall_mem_cons.mp h
    rw [after_cons, ih hrest, delay_handle_of_ne hfirst, deltas_cons, Timer.after_append]

theorem countsDown (h : e.LeavesDelay events) :
    e.CountsDown e.machine.delay.frequency.toNat events where
  value_eq := by
    rw [delay_after_of_leavesDelay h, Timer.toNat_value_after, steps_eq]
    rfl
  read_eq event x hread := by
    obtain ⟨delta, rfl, hread⟩ := exists_update_of_instruction? hread
    have hlater : deltas (events ++ [.update delta]) = deltas events ++ [delta] :=
      List.filterMap_append
    have hget : (((e.after events).update delta).2.machine.get x).toNat =
        min ((e.after events).machine.delay.tick delta).value.toNat 255 :=
      Machine.toNat_get_tick_of_readDelay hread
    have hvalue := Timer.toNat_value_after e.machine.delay (deltas events ++ [delta])
    rw [Timer.after_append, ← delay_after_of_leavesDelay h] at hvalue
    rw [steps_eq, hlater]
    exact hget.trans (congrArg (min · 255) hvalue)

end Run

section Built

variable {c : Config} {unseeded : RandomKey} {font program : List UInt8} {e : Emulator}

theorem delay_frequency_after (hnew : new c unseeded font program = .ok e) (events : List Event) :
    (e.after events).machine.delay.frequency = c.delayRate := by
  have hsame := sameTime_after (e := e) .delay events
  rw [timer_of_new hnew .delay] at hsame
  exact hsame.frequency_eq.trans (Timer.frequency_after _ _)

-- The delay count starts at zero, and Fx15 sets it to a byte. From any point on it
-- counts down and goes round, one for each step of its clock, until the next Fx15;
-- and Fx07 reads it, or 255 where it exceeds a byte.
theorem delay_counts_down (hnew : new c unseeded font program = .ok e) (first : List Event) :
    e.machine.delay.value = 0 ∧
    (∀ event x, ((e.after first).handle event).1.instruction? = some (.setDelay x) →
      ((e.after first).handle event).2.machine.delay.value.toNat =
        ((e.after first).machine.get x).toNat) ∧
    ∀ rest, (e.after first).LeavesDelay rest →
      (e.after first).CountsDown c.delayRate.toNat rest := by
  refine ⟨?_, ?_, ?_⟩
  · have htimer := timer_of_new hnew .delay
    exact congrArg Timer.value htimer
  · intro event x hset
    obtain ⟨delta, rfl, hset⟩ := exists_update_of_instruction? hset
    have hvalue : ((e.after first).update delta).2.machine.delay.value =
        ((e.after first).machine.get x).toUInt32 := Machine.delay_tick_of_setDelay hset
    exact (congrArg UInt32.toNat hvalue).trans (UInt8.toNat_toUInt32 _)
  · intro rest hleaves
    rw [← delay_frequency_after hnew first]
    exact countsDown hleaves

-- A rate above what a byte can hold. The program sets the count to two and reads
-- it four steps later.
def fastDelay : Config where
  memorySize := 16
  programAddress := 0
  fontAddress := 0
  delayRate := 300

def fastDelayProgram : List UInt8 :=
  [0x60, 0x02, 0xF0, 0x15, 0x70, 0x01, 0x70, 0x01, 0x70, 0x01, 0xF1, 0x07]

def fastDelayEmulator : Emulator := built fastDelay (Vector.replicate 8 0) [] fastDelayProgram

def setsTwo : List Event := [.update Timer.second, .update Timer.second]

def addsThrice : List Event :=
  [.update Timer.second, .takeFrame, .update Timer.second, .setKey 3 true, .update Timer.second]

theorem delay_counts_down_fastDelay :
    new fastDelay (Vector.replicate 8 0) [] fastDelayProgram = .ok fastDelayEmulator ∧
      (fastDelayEmulator.after setsTwo).LeavesDelay addsThrice ∧
      ((fastDelayEmulator.after setsTwo).after addsThrice).machine.delay.value.toNat = 300 ∧
      ((((fastDelayEmulator.after setsTwo).after addsThrice).handle
        (.update Timer.second)).2.machine.get 1).toNat = 255 := by
  have hnew : new fastDelay (Vector.replicate 8 0) [] fastDelayProgram = .ok fastDelayEmulator :=
    new_eq_ok_iff.mpr ⟨by decide, by decide, by decide, by decide, rfl⟩
  have hleaves : (fastDelayEmulator.after setsTwo).LeavesDelay addsThrice := by
    unfold LeavesDelay
    decide +kernel
  have hcounts := (delay_counts_down hnew setsTwo).2.2 addsThrice hleaves
  have hvalue : (fastDelayEmulator.after setsTwo).machine.delay.value.toNat = 2 := by decide
  have hsteps : (fastDelayEmulator.after setsTwo).steps .delay addsThrice = 3 := by decide
  have hsteps' : (fastDelayEmulator.after setsTwo).steps .delay
      (addsThrice ++ [.update Timer.second]) = 4 := by decide
  refine ⟨hnew, hleaves, ?_, ?_⟩
  · rw [hcounts.value_eq, hvalue, hsteps]
    rfl
  · rw [hcounts.read_eq (.update Timer.second) 1 (by decide), hvalue, hsteps']
    rfl

end Built

end Emulator

end Chip8
