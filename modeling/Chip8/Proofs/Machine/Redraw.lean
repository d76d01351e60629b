import Chip8.Proofs.Machine.Effect
import Chip8.Proofs.Machine.Raster

namespace Chip8

def Instruction.redraws : Instruction → Bool
  | .clearDisplay => true
  | .draw _ _ _ => true
  | _ => false

def Cycle.redraws (c : Cycle) : Bool := c.instruction.redraws

namespace Display

theorem draw_of_isEmpty {d : Display} (h : d.pixels.isEmpty) (x y : Nat) (sprite : List UInt8) :
    d.draw x y sprite = (false, d) :=
  if_pos h

theorem changed_draw {d : Display} (h : ¬ d.pixels.isEmpty) (x y : Nat) (sprite : List UInt8) :
    (d.draw x y sprite).2.changed = true := by
  rw [draw, if_neg h]

theorem not_isEmpty {d : Display} (hwidth : 0 < d.width) (hheight : 0 < d.height) :
    ¬ d.pixels.isEmpty := by
  rw [Array.isEmpty_iff_size_eq_zero, d.size_eq]
  exact Nat.ne_of_gt (Nat.mul_pos hwidth hheight)

end Display

namespace Machine

section Execution

variable (m : Machine) (keys : Keypad) (address : UInt16) (i : Instruction)

theorem display_draw (x y n : Nibble) :
    (m.draw x y n).display =
      (m.display.draw (m.get x).toNat (m.get y).toNat
        (m.memory.readMany (m.indexAddress 0) n.val)).2 :=
  rfl

theorem shape_display_execute :
    (m.execute keys address i).2.display.width = m.display.width ∧
      (m.execute keys address i).2.display.height = m.display.height := by
  rw [display_execute]
  cases i with
  | draw x y n => exact m.display.shape_draw _ _ _
  | _ => exact ⟨rfl, rfl⟩

variable {m keys address i}

theorem display_execute_of_not_redraws (h : i.redraws = false) :
    (m.execute keys address i).2.display = m.display := by
  rw [display_execute]
  cases i with
  | clearDisplay => exact absurd h (by decide)
  | draw x y n => exact absurd h Bool.noConfusion
  | _ => rfl

theorem display_execute_of_not_changed
    (h : (m.execute keys address i).2.display.changed = false) :
    (m.execute keys address i).2.display = m.display := by
  rw [display_execute] at h ⊢
  cases i with
  | clearDisplay => exact absurd h Bool.noConfusion
  | draw x y n =>
    dsimp only at h ⊢
    rw [display_draw] at h ⊢
    by_cases hempty : m.display.pixels.isEmpty
    · rw [Display.draw_of_isEmpty hempty]
    · rw [Display.changed_draw hempty] at h
      exact absurd h Bool.noConfusion
  | _ => rfl

theorem changed_execute_iff (hslots : ¬ m.display.pixels.isEmpty) :
    (m.execute keys address i).2.display.changed = true ↔
      i.redraws = true ∨ m.display.changed = true := by
  constructor
  · intro h
    by_cases hredraws : i.redraws = true
    · exact .inl hredraws
    · rw [display_execute_of_not_redraws (Bool.eq_false_iff.mpr hredraws)] at h
      exact .inr h
  · rintro (hredraws | hchanged)
    · rw [display_execute]
      cases i with
      | clearDisplay => rfl
      | draw x y n => exact Display.changed_draw hslots _ _ _
      | _ => exact absurd hredraws Bool.noConfusion
    · by_contra h
      rw [Bool.not_eq_true] at h
      rw [display_execute_of_not_changed h, hchanged] at h
      exact absurd h Bool.noConfusion

end Execution

section Ticks

variable {m : Machine} {keys : Keypad} {delta : Nat}

theorem shape_display_tick :
    (m.tick keys delta).2.display.width = m.display.width ∧
      (m.tick keys delta).2.display.height = m.display.height :=
  tick_induction (motive := fun next => next.display.width = m.display.width ∧
    next.display.height = m.display.height)
    ⟨rfl, rfl⟩ (shape_display_execute (m.timed delta).advance keys _ _)

theorem display_tick_of_not_changed (h : (m.tick keys delta).2.display.changed = false) :
    (m.tick keys delta).2.display = m.display := by
  cases hdue : m.clock.due delta with
  | false =>
    rw [tick_of_not_due hdue]
    rfl
  | true =>
    rw [tick_of_due hdue] at h ⊢
    exact display_execute_of_not_changed (m := (m.timed delta).advance) h

theorem changed_tick_iff (hslots : ¬ m.display.pixels.isEmpty) :
    (m.tick keys delta).2.display.changed = true ↔
      (m.tick keys delta).1.any Cycle.redraws = true ∨ m.display.changed = true := by
  cases hdue : m.clock.due delta with
  | false =>
    rw [tick_of_not_due hdue]
    exact ⟨.inr, fun h => h.resolve_left Bool.noConfusion⟩
  | true =>
    rw [tick_of_due hdue]
    exact changed_execute_iff (m := (m.timed delta).advance) hslots

end Ticks

end Machine

end Chip8
