import Chip8.Proofs.Machine.Timekeeping
import Mathlib.Algebra.GroupWithZero.Nat

namespace Chip8.Timer

inductive Action where
  | tick (delta : Nat)
  | set (value : UInt32)
  deriving DecidableEq, Repr

def Action.delta? : Action → Option Nat
  | tick delta => some delta
  | set _ => none

def Action.value? : Action → Option UInt32
  | tick _ => none
  | set value => some value

def act (t : Timer) : Action → Timer
  | .tick delta => t.tick delta
  | .set value => t.set value

def afterActions (t : Timer) (actions : List Action) : Timer := actions.foldl act t

def returns (t : Timer) : List Action → List Bool
  | [] => []
  | action :: rest => (action.delta?.map t.due).toList ++ (t.act action).returns rest

def timeFed (actions : List Action) : Nat := (actions.filterMap Action.delta?).sum

def lastSet (value : UInt32) (actions : List Action) : UInt32 :=
  actions.foldl (fun last action => action.value?.getD last) value

-- No tick steps, and the count is at all times the one set last.
structure StandsStill (t : Timer) (actions : List Action) : Prop where
  returns_false : ∀ stepped ∈ t.returns actions, stepped = false
  value_eq : ∀ k, (t.afterActions (actions.take k)).value = lastSet t.value (actions.take k)

section Actions

variable {t : Timer}

theorem tick_of_not_due {delta : Nat} (h : t.due delta = false) :
    t.tick delta = { t with elapsed := addTime t.elapsed delta } := by
  rw [tick, h]
  rfl

theorem value_afterActions {actions : List Action}
    (h : ∀ stepped ∈ t.returns actions, stepped = false) (k : Nat) :
    (t.afterActions (actions.take k)).value = lastSet t.value (actions.take k) := by
  induction actions generalizing t k with
  | nil => rw [List.take_nil]; rfl
  | cons action rest ih =>
    cases k with
    | zero => rfl
    | succ k =>
      have hrest := ih (t := t.act action)
        (fun stepped hmem => h stepped (List.mem_append_right _ hmem)) k
      cases action with
      | tick delta =>
        have hdue : t.due delta = false := h _ (List.mem_append_left _ (List.mem_singleton_self _))
        have hvalue : (t.tick delta).value = t.value := by rw [tick_of_not_due hdue]
        rw [List.take_succ_cons]
        exact hrest.trans (congrArg (lastSet · (rest.take k)) hvalue)
      | set value => exact hrest

end Actions

section ZeroFrequency

variable {t : Timer} (hzero : t.frequency = 0)
include hzero

theorem due_iff_of_zero (delta : Nat) :
    t.due delta = true ↔ longest ≤ t.elapsed + delta := by
  rw [due, decide_eq_true_eq, period, if_pos hzero, addTime, Nat.le_min,
    and_iff_left (Nat.le_refl _)]

-- The time fed so far is the time held, as long as no step has dropped it.
theorem returns_false_iff (hheld : t.elapsed < longest) (actions : List Action) :
    (∀ stepped ∈ t.returns actions, stepped = false) ↔ t.elapsed + timeFed actions < longest := by
  induction actions generalizing t with
  | nil => exact iff_of_true (fun _ hmem => nomatch hmem) hheld
  | cons action rest ih =>
    cases action with
    | tick delta =>
      have hfed : timeFed (.tick delta :: rest) = delta + timeFed rest := List.sum_cons
      show (∀ stepped ∈ t.due delta :: (t.tick delta).returns rest, stepped = false) ↔ _
      rw [List.forall_mem_cons, hfed]
      by_cases hdue : t.due delta = true
      · have hreached := (due_iff_of_zero hzero delta).mp hdue
        exact iff_of_false (fun h => Bool.noConfusion (hdue.symm.trans h.1)) (by omega)
      · have hshort : t.elapsed + delta < longest :=
          Nat.lt_of_not_le (mt (due_iff_of_zero hzero delta).mpr hdue)
        have hnot := Bool.eq_false_iff.mpr hdue
        have helapsed : (t.tick delta).elapsed = t.elapsed + delta := by
          rw [tick_of_not_due hnot]
          exact Nat.min_eq_left (Nat.le_of_lt hshort)
        rw [and_iff_right hnot, ih (by rwa [frequency_tick]) (by rwa [helapsed]), helapsed,
          Nat.add_assoc]
    | set value => exact ih (t := t.set value) hzero hheld

theorem standsStill_iff (hheld : t.elapsed < longest) (actions : List Action) :
    t.StandsStill actions ↔ t.elapsed + timeFed actions < longest := by
  rw [← returns_false_iff hzero hheld]
  exact ⟨StandsStill.returns_false, fun h => ⟨h, value_afterActions h⟩⟩

end ZeroFrequency

-- A timer of frequency zero stands still exactly as long as the times that it
-- is fed are less than the longest time in all.
theorem zero_frequency_stands_still_iff (actions : List Action) :
    (ofFrequency 0).StandsStill actions ↔ timeFed actions < longest := by
  rw [standsStill_iff rfl (by decide)]
  show 0 + timeFed actions < longest ↔ timeFed actions < longest
  rw [Nat.zero_add]

-- One tick of the longest time takes a count of five down to four.
theorem zero_frequency_steps_at_longest :
    (ofFrequency 0).returns [.set 5, .tick longest] = [true] ∧
      ((ofFrequency 0).afterActions [.set 5, .tick longest]).value = 4 ∧
      ¬ (ofFrequency 0).StandsStill [.set 5, .tick longest] := by
  have hreturns : (ofFrequency 0).returns [.set 5, .tick longest] = [true] := by decide
  refine ⟨hreturns, by decide, fun h => ?_⟩
  have hstepped := h.returns_false true (by rw [hreturns]; exact List.mem_singleton_self _)
  exact Bool.noConfusion hstepped

end Chip8.Timer
