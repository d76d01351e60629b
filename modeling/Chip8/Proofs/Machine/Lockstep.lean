import Chip8.Machine.Run

namespace Chip8.Machine

-- One cycle of each machine does the same and leaves the machines related.
structure StepsAlike (R : Machine → Machine → Prop) (m m' : Machine) (keys keys' : Keypad) :
    Prop where
  cycle_eq : (m'.cycle keys').1 = (m.cycle keys).1
  next : R (m.cycle keys).2 (m'.cycle keys').2

structure Lockstep (R : Machine → Machine → Prop) (m m' : Machine) (first second : List Keypad) :
    Prop where
  cycles_eq : m'.cycles second = m.cycles first
  before : ∀ k ≤ first.length, R (m.before first k) (m'.before second k)

variable {R : Machine → Machine → Prop} {m m' : Machine} {first second : List Keypad}

theorem lockstep_of_steps (hlength : second.length = first.length) (hstart : R m m')
    (hstep : ∀ k keys keys', first[k]? = some keys → second[k]? = some keys' →
      R (m.before first k) (m'.before second k) →
      StepsAlike R (m.before first k) (m'.before second k) keys keys') :
    Lockstep R m m' first second := by
  have hbefore : ∀ k ≤ first.length, R (m.before first k) (m'.before second k) := by
    intro k hk
    induction k with
    | zero => exact hstart
    | succ k ih =>
      have hk' : k < second.length := by omega
      have hnext := hstep k _ _ (List.getElem?_eq_getElem hk) (List.getElem?_eq_getElem hk')
        (ih (Nat.le_of_succ_le hk))
      rw [before_succ m first hk, before_succ m' second hk']
      exact hnext.next
  refine ⟨List.ext_getElem? fun k => ?_, hbefore⟩
  rw [getElem?_cycles, getElem?_cycles]
  by_cases hk : k < first.length
  · have hk' : k < second.length := by omega
    have hnext := hstep k _ _ (List.getElem?_eq_getElem hk) (List.getElem?_eq_getElem hk')
      (hbefore k (Nat.le_of_lt hk))
    simp [hk, hk', hnext.cycle_eq]
  · have hk' : ¬ k < second.length := by omega
    simp [hk, hk']

end Chip8.Machine
