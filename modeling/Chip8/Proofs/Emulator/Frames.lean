import Chip8.Proofs.Emulator.Conformance
import Chip8.Proofs.Machine.Redraw

namespace Chip8.Emulator

namespace Response

def redraws : Response → Bool
  | .report r => r.cycle?.any Cycle.redraws
  | _ => false

def delivers : Response → Bool
  | .frame display? => display?.isSome
  | _ => false

def pixels? : Response → Option (Array Bool)
  | .frame display? => display?.map Display.pixels
  | _ => none

end Response

def stepsFrameClock (e : Emulator) : Event → Bool
  | .update delta => e.frameClock.due delta
  | _ => false

section Step

variable {e : Emulator}

theorem frameDue_handle (event : Event) :
    (e.handle event).2.frameDue = true ↔
      e.stepsFrameClock event = true ∨ e.frameDue = true ∧ event ≠ .takeFrame := by
  cases event with
  | update delta =>
    show (e.frameDue || e.frameClock.due delta) = true ↔ e.frameClock.due delta = true ∨ _
    rw [Bool.or_eq_true, or_comm]
    exact or_congr_right (and_iff_left Event.noConfusion).symm
  | setKey key down =>
    show e.frameDue = true ↔ false = true ∨ _
    rw [or_iff_right Bool.noConfusion]
    exact (and_iff_left Event.noConfusion).symm
  | takeFrame =>
    have hnot : (e.handle .takeFrame).2.frameDue = false := by
      show e.takeFrame.2.frameDue = false
      rw [snd_takeFrame]
    rw [hnot]
    exact ⟨Bool.noConfusion, fun h => h.elim Bool.noConfusion fun h => absurd rfl h.2⟩

theorem takeFrame_eq :
    e.takeFrame.1 =
      if e.frameDue = true ∧ e.machine.display.changed = true then some e.machine.display.settled
      else none := by
  unfold takeFrame
  split
  · rename_i hdue
    simp only [hdue, true_and]
  · rename_i hdue
    rw [if_neg fun h => hdue h.1]

theorem delivers_takeFrame :
    (e.handle .takeFrame).1.delivers = true ↔
      e.frameDue = true ∧ e.machine.display.changed = true := by
  show e.takeFrame.1.isSome = true ↔ _
  rw [takeFrame_eq]
  split
  · rename_i h
    exact ⟨fun _ => h, fun _ => rfl⟩
  · rename_i h
    exact ⟨Bool.noConfusion, fun h' => absurd h' h⟩

theorem display_takeFrame :
    e.takeFrame.2.machine.display =
      if e.frameDue then e.machine.display.settled else e.machine.display := by
  unfold takeFrame
  cases e.frameDue <;> rfl

theorem shape_display_handle (event : Event) :
    (e.handle event).2.machine.display.width = e.machine.display.width ∧
      (e.handle event).2.machine.display.height = e.machine.display.height := by
  cases event with
  | update delta => exact Machine.shape_display_tick
  | setKey key down => exact ⟨rfl, rfl⟩
  | takeFrame =>
    have hdisplay : (e.handle .takeFrame).2.machine.display = e.takeFrame.2.machine.display := rfl
    rw [hdisplay, display_takeFrame]
    split <;> exact ⟨rfl, rfl⟩

theorem shape_display_after (events : List Event) :
    (e.after events).machine.display.width = e.machine.display.width ∧
      (e.after events).machine.display.height = e.machine.display.height := by
  induction events generalizing e with
  | nil => exact ⟨rfl, rfl⟩
  | cons event rest ih =>
    obtain ⟨hwidth, hheight⟩ := shape_display_handle (e := e) event
    rw [after_cons, ← hwidth, ← hheight]
    exact ih

theorem changed_handle_of_changed {event : Event} (hchanged : e.machine.display.changed = true)
    (hkept : (e.handle event).1.delivers = false) :
    (e.handle event).2.machine.display.changed = true := by
  cases event with
  | update delta =>
    by_contra h
    have hsame : (e.machine.tick e.keys delta).2.display = e.machine.display :=
      Machine.display_tick_of_not_changed (Bool.eq_false_iff.mpr h)
    exact h (hsame ▸ hchanged)
  | setKey key down => exact hchanged
  | takeFrame =>
    have hdue : ¬ e.frameDue = true := by
      intro hdue
      rw [delivers_takeFrame.mpr ⟨hdue, hchanged⟩] at hkept
      exact Bool.noConfusion hkept
    show e.takeFrame.2.machine.display.changed = true
    rw [display_takeFrame, if_neg hdue]
    exact hchanged

theorem changed_handle (hslots : ¬ e.machine.display.pixels.isEmpty) (event : Event) :
    (e.handle event).2.machine.display.changed = true ↔
      (e.handle event).1.redraws = true ∨
        e.machine.display.changed = true ∧ (e.handle event).1.delivers ≠ true := by
  constructor
  · intro h
    cases event with
    | update delta =>
      exact ((Machine.changed_tick_iff hslots).mp h).imp_right fun hchanged =>
        ⟨hchanged, Bool.noConfusion⟩
    | setKey key down => exact .inr ⟨h, Bool.noConfusion⟩
    | takeFrame =>
      change e.takeFrame.2.machine.display.changed = true at h
      rw [display_takeFrame] at h
      split at h
      · exact absurd h Bool.noConfusion
      · rename_i hdue
        exact .inr ⟨h, fun hdelivers => hdue (delivers_takeFrame.mp hdelivers).1⟩
  · rintro (hredraws | ⟨hchanged, hkept⟩)
    · cases event with
      | update delta => exact (Machine.changed_tick_iff hslots).mpr (.inl hredraws)
      | setKey key down => exact absurd hredraws Bool.noConfusion
      | takeFrame => exact absurd hredraws Bool.noConfusion
    · exact changed_handle_of_changed hchanged (Bool.eq_false_iff.mpr hkept)

theorem pixels_handle {last : Array Bool} (event : Event)
    (hlast : e.machine.display.changed = false → e.machine.display.pixels = last)
    (hsettled : (e.handle event).2.machine.display.changed = false) :
    (e.handle event).2.machine.display.pixels = (e.handle event).1.pixels?.getD last := by
  cases event with
  | update delta =>
    have hsame : (e.machine.tick e.keys delta).2.display = e.machine.display :=
      Machine.display_tick_of_not_changed hsettled
    show (e.machine.tick e.keys delta).2.display.pixels = last
    change (e.machine.tick e.keys delta).2.display.changed = false at hsettled
    rw [hsame] at hsettled ⊢
    exact hlast hsettled
  | setKey key down => exact hlast hsettled
  | takeFrame =>
    show e.takeFrame.2.machine.display.pixels = (e.takeFrame.1.map Display.pixels).getD last
    change e.takeFrame.2.machine.display.changed = false at hsettled
    rw [display_takeFrame] at hsettled ⊢
    rw [takeFrame_eq]
    by_cases hchanged : e.machine.display.changed = true
    · by_cases hdue : e.frameDue = true
      · rw [if_pos hdue, if_pos ⟨hdue, hchanged⟩]
        rfl
      · rw [if_neg hdue, hchanged] at hsettled
        exact absurd hsettled Bool.noConfusion
    · have hnone : ¬ (e.frameDue = true ∧ e.machine.display.changed = true) := fun h => hchanged h.2
      rw [if_neg hnone]
      have hpixels := hlast (Bool.eq_false_iff.mpr hchanged)
      split
      · exact hpixels
      · exact hpixels

end Step

section Flags

-- Before moment `k`, `set` has happened and `reset` has not happened since.
def Since (set reset : Nat → Prop) (k : Nat) : Prop :=
  ∃ i < k, set i ∧ ∀ j, i < j → j < k → ¬ reset j

variable {set reset : Nat → Prop}

theorem since_succ (k : Nat) :
    Since set reset (k + 1) ↔ set k ∨ Since set reset k ∧ ¬ reset k := by
  constructor
  · rintro ⟨i, hi, hset, hno⟩
    rcases Nat.lt_succ_iff_lt_or_eq.mp hi with hlt | rfl
    · exact .inr ⟨⟨i, hlt, hset, fun j hij hj => hno j hij (by omega)⟩, hno k hlt (by omega)⟩
    · exact .inl hset
  · rintro (hset | ⟨⟨i, hi, hset, hno⟩, hk⟩)
    · exact ⟨k, by omega, hset, fun j hkj hj => absurd hj (by omega)⟩
    · refine ⟨i, by omega, hset, fun j hij hj => ?_⟩
      rcases Nat.lt_succ_iff_lt_or_eq.mp hj with hlt | rfl
      · exact hno j hij hlt
      · exact hk

-- A flag that every step sets or resets says what has happened since.
theorem flag_iff_since (flag : Nat → Prop) {n : Nat} (hzero : ¬ flag 0)
    (hstep : ∀ k < n, flag (k + 1) ↔ set k ∨ flag k ∧ ¬ reset k) :
    ∀ k ≤ n, flag k ↔ Since set reset k := by
  intro k hk
  induction k with
  | zero => exact ⟨fun h => absurd h hzero, fun ⟨i, hi, _⟩ => absurd hi (Nat.not_lt_zero i)⟩
  | succ k ih => rw [hstep k hk, since_succ, ih (Nat.le_of_succ_le hk)]

end Flags

-- What happens at event `k` of a run: the frame clock steps, a frame is asked
-- for, the display is redrawn, a frame is delivered.
def StepsAt (e : Emulator) (events : List Event) (k : Nat) : Prop :=
  events[k]?.any (e.before events k).stepsFrameClock = true

def TakesAt (events : List Event) (k : Nat) : Prop := events[k]? = some .takeFrame

def RedrawsAt (e : Emulator) (events : List Event) (k : Nat) : Prop :=
  (e.responses events)[k]?.any Response.redraws = true

def DeliversAt (e : Emulator) (events : List Event) (k : Nat) : Prop :=
  (e.responses events)[k]?.any Response.delivers = true

-- A request is answered with a frame exactly when the frame clock has stepped
-- since the last request and the display has been redrawn since the last
-- delivery.
def DeliversWhenDue (e : Emulator) (events : List Event) : Prop :=
  ∀ k, TakesAt events k →
    (e.DeliversAt events k ↔
      Since (e.StepsAt events) (TakesAt events) k ∧
        Since (e.RedrawsAt events) (e.DeliversAt events) k)

-- The pixels of the last frame that was delivered before event `k`; all off
-- before there was one.
def lastDelivered (e : Emulator) (events : List Event) (k : Nat) : Array Bool :=
  ((e.responses events).take k).foldl (fun last response => response.pixels?.getD last)
    (Array.replicate e.machine.display.pixels.size false)

section Run

variable {e : Emulator} {events : List Event}

theorem stepsAt_iff {k : Nat} {event : Event} (h : events[k]? = some event) :
    e.StepsAt events k ↔ (e.before events k).stepsFrameClock event = true := by
  rw [StepsAt, h, Option.any_some]

theorem takesAt_iff {k : Nat} {event : Event} (h : events[k]? = some event) :
    TakesAt events k ↔ event = .takeFrame := by
  rw [TakesAt, h, Option.some.injEq]

theorem redrawsAt_iff {k : Nat} {event : Event} (h : events[k]? = some event) :
    e.RedrawsAt events k ↔ ((e.before events k).handle event).1.redraws = true := by
  rw [RedrawsAt, getElem?_responses, h, Option.map_some, Option.any_some]

theorem deliversAt_iff {k : Nat} {event : Event} (h : events[k]? = some event) :
    e.DeliversAt events k ↔ ((e.before events k).handle event).1.delivers = true := by
  rw [DeliversAt, getElem?_responses, h, Option.map_some, Option.any_some]

theorem frameDue_before (hdue : e.frameDue = false) {k : Nat} (hk : k ≤ events.length) :
    (e.before events k).frameDue = true ↔ Since (e.StepsAt events) (TakesAt events) k := by
  refine flag_iff_since (fun k => (e.before events k).frameDue = true) ?_ ?_ k hk
  · rw [before_zero, hdue]
    exact Bool.noConfusion
  · intro k hk
    have hevent := List.getElem?_eq_getElem hk
    rw [before_succ e hevent, frameDue_handle, stepsAt_iff hevent, takesAt_iff hevent]

theorem changed_before (hchanged : e.machine.display.changed = false)
    (hwidth : 0 < e.machine.display.width) (hheight : 0 < e.machine.display.height) {k : Nat}
    (hk : k ≤ events.length) :
    (e.before events k).machine.display.changed = true ↔
      Since (e.RedrawsAt events) (e.DeliversAt events) k := by
  refine flag_iff_since (fun k => (e.before events k).machine.display.changed = true) ?_ ?_ k hk
  · rw [before_zero, hchanged]
    exact Bool.noConfusion
  · intro k hk
    have hevent := List.getElem?_eq_getElem hk
    obtain ⟨hcolumns, hrows⟩ := shape_display_after (e := e) (events.take k)
    have hslots : ¬ (e.before events k).machine.display.pixels.isEmpty :=
      Display.not_isEmpty (hcolumns ▸ hwidth) (hrows ▸ hheight)
    rw [before_succ e hevent, changed_handle hslots, redrawsAt_iff hevent, deliversAt_iff hevent]

theorem deliversAt_take_iff {k : Nat} (h : TakesAt events k) :
    e.DeliversAt events k ↔
      (e.before events k).frameDue = true ∧ (e.before events k).machine.display.changed = true := by
  rw [deliversAt_iff h, delivers_takeFrame]

theorem deliversWhenDue (hdue : e.frameDue = false)
    (hchanged : e.machine.display.changed = false) (hwidth : 0 < e.machine.display.width)
    (hheight : 0 < e.machine.display.height) (events : List Event) :
    e.DeliversWhenDue events := by
  intro k htakes
  obtain ⟨hk, -⟩ := List.getElem?_eq_some_iff.mp htakes
  rw [deliversAt_take_iff htakes, frameDue_before hdue (Nat.le_of_lt hk),
    changed_before hchanged hwidth hheight (Nat.le_of_lt hk)]

theorem lastDelivered_succ {k : Nat} {event : Event} (h : events[k]? = some event) :
    e.lastDelivered events (k + 1) =
      ((e.before events k).handle event).1.pixels?.getD (e.lastDelivered events k) := by
  have hresponse : (e.responses events)[k]? = some ((e.before events k).handle event).1 := by
    rw [getElem?_responses, h, Option.map_some]
  rw [lastDelivered, List.take_add_one, hresponse, Option.toList_some, List.foldl_append]
  rfl

theorem pixels_before (hoff : e.machine.display.pixels =
      Array.replicate e.machine.display.pixels.size false) {k : Nat} (hk : k ≤ events.length)
    (hsettled : (e.before events k).machine.display.changed = false) :
    (e.before events k).machine.display.pixels = e.lastDelivered events k := by
  induction k with
  | zero => exact hoff
  | succ k ih =>
    have hevent := List.getElem?_eq_getElem hk
    rw [before_succ e hevent] at hsettled ⊢
    rw [lastDelivered_succ hevent]
    exact pixels_handle _ (ih (Nat.le_of_succ_le hk)) hsettled

theorem changed_before_of_changed {i k : Nat} (hik : i ≤ k) (hk : k ≤ events.length)
    (hchanged : (e.before events i).machine.display.changed = true)
    (hkept : ∀ j, i ≤ j → j < k → ¬ e.DeliversAt events j) :
    (e.before events k).machine.display.changed = true := by
  induction hik with
  | refl => exact hchanged
  | @step k hik ih =>
    have hevent := List.getElem?_eq_getElem hk
    have hno := hkept k hik (Nat.lt_succ_self k)
    rw [deliversAt_iff hevent, Bool.not_eq_true] at hno
    rw [before_succ e hevent]
    exact changed_handle_of_changed
      (ih (Nat.le_of_succ_le hk) fun j hij hj => hkept j hij (Nat.lt_succ_of_lt hj)) hno

end Run

-- Pixels that differ from the last frame are pending until a frame is delivered,
-- and the first request after a step of the frame clock delivers the pixels as
-- they are then.
def KeepsChanges (e : Emulator) (events : List Event) : Prop :=
  ∀ i k, i ≤ k → k ≤ events.length →
    (e.before events i).machine.display.pixels ≠ e.lastDelivered events i →
    (∀ j, i ≤ j → j < k → ¬ e.DeliversAt events j) →
    (e.before events k).machine.display.changed = true ∧
      (TakesAt events k → Since (e.StepsAt events) (TakesAt events) k →
        ∃ display, (e.responses events)[k]? = some (.frame (some display)) ∧
          display.pixels = (e.before events k).machine.display.pixels)

theorem keepsChanges {e : Emulator} (hdue : e.frameDue = false)
    (hoff : e.machine.display.pixels = Array.replicate e.machine.display.pixels.size false)
    (events : List Event) : e.KeepsChanges events := by
  intro i k hik hk hdiffer hkept
  have hpending : (e.before events i).machine.display.changed = true := by
    by_contra h
    exact hdiffer (pixels_before hoff (Nat.le_trans hik hk) (Bool.eq_false_iff.mpr h))
  have hchanged := changed_before_of_changed hik hk hpending hkept
  refine ⟨hchanged, fun htakes hsteps => ?_⟩
  have hframeDue := (frameDue_before hdue hk).mpr hsteps
  refine ⟨(e.before events k).machine.display.settled, ?_, rfl⟩
  rw [getElem?_responses, htakes, Option.map_some]
  show some (Response.frame (e.before events k).takeFrame.1) = _
  rw [takeFrame_eq, if_pos ⟨hframeDue, hchanged⟩]

-- For every program and every run, frames are delivered when they are due and the
-- display has been redrawn, and no change of the pixels is lost.
theorem frames_delivered_when_due {c : Config} {unseeded : RandomKey} {font program : List UInt8}
    {e : Emulator} (hnew : new c unseeded font program = .ok e) (events : List Event) :
    e.DeliversWhenDue events ∧ e.KeepsChanges events := by
  obtain ⟨hvalidate, -, -, -, rfl⟩ := new_eq_ok_iff.mp hnew
  have hvalid := Config.valid_of_validate hvalidate
  have hoff : (built c unseeded font program).machine.display.pixels =
      Array.replicate (built c unseeded font program).machine.display.pixels.size false := by
    rw [Display.size_eq]
    rfl
  exact ⟨deliversWhenDue rfl rfl hvalid.width_pos hvalid.height_pos events,
    keepsChanges rfl hoff events⟩

-- Draws its own first byte, then waits in a loop.
def oneSprite : Config where
  memorySize := 4
  programAddress := 0
  fontAddress := 0
  instructionRate := 100
  frameRate := 50
  width := 3
  height := 2

def oneSpriteEmulator : Emulator :=
  .built oneSprite (Vector.replicate 8 0) [] [0xD0, 0x01, 0x10, 0x02]

-- The sprite is drawn by the first update, and the frame clock steps with the
-- second.
def oneSpriteRun : List Event :=
  [.update 10000000, .takeFrame, .update 10000000, .takeFrame, .update Timer.second, .takeFrame]

theorem frames_delivered_when_due_oneSprite :
    new oneSprite (Vector.replicate 8 0) [] [0xD0, 0x01, 0x10, 0x02] = .ok oneSpriteEmulator ∧
      oneSpriteEmulator.DeliversWhenDue oneSpriteRun ∧
      oneSpriteEmulator.KeepsChanges oneSpriteRun ∧
      ¬ oneSpriteEmulator.DeliversAt oneSpriteRun 1 ∧
      oneSpriteEmulator.DeliversAt oneSpriteRun 3 ∧
      ¬ oneSpriteEmulator.DeliversAt oneSpriteRun 5 := by
  have hnew : new oneSprite (Vector.replicate 8 0) [] [0xD0, 0x01, 0x10, 0x02] =
      .ok oneSpriteEmulator :=
    new_eq_ok_iff.mpr ⟨by decide, by decide, by decide, by decide, rfl⟩
  obtain ⟨hdelivers, hkeeps⟩ := frames_delivered_when_due hnew oneSpriteRun
  refine ⟨hnew, hdelivers, hkeeps, ?_, ?_, ?_⟩
  · unfold DeliversAt
    decide
  · unfold DeliversAt
    decide
  · unfold DeliversAt
    decide

end Chip8.Emulator
