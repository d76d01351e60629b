import Chip8.Proofs.Checked.Execution
import Chip8.Proofs.Emulator.Conformance

namespace Chip8.Emulator

def updateChecked (e : Emulator) (delta : Nat) : Checked (Report × Emulator) := do
  let (cycle?, machine) ← e.machine.tickChecked e.keys delta
  let frameClock ← e.frameClock.tickChecked delta
  let frameDue := e.frameDue || e.frameClock.due delta
  return (⟨cycle?, frameDue⟩, { e with machine, frameClock, frameDue })

-- A key change and a taken frame compute nothing that could trap.
def handleChecked (e : Emulator) (event : Event) : Checked (Response × Emulator) := do
  match event with
  | .update delta =>
    let (report, next) ← e.updateChecked delta
    return (.report report, next)
  | event => return e.handle event

variable {e : Emulator} {c : Config}

theorem handleChecked_eq (h : e.Conforms c) (hvalid : c.Valid)
    (hsmall : c.width * c.height < wordLimit) (event : Event)
    (hstack : (e.handle event).2.machine.stack.capacity < wordLimit) :
    e.handleChecked event = pure (e.handle event) := by
  cases event with
  | update delta =>
    rw [handleChecked, updateChecked,
      Machine.tickChecked_eq h.machine hvalid hsmall e.keys delta hstack, pure_bind]
    dsimp only
    rw [Timer.tickChecked_eq, pure_bind]
    rfl
  | setKey key down => rfl
  | takeFrame => rfl

-- Construction succeeds, and every state that events lead to conforms to the
-- configuration, so the next event does not trap. The stack can grow without
-- end; its slots have to stay countable.
theorem conforms_and_never_traps (hvalid : c.validate = .ok ()) (hfits : c.Allocatable)
    (unseeded : RandomKey) (font program : List UInt8)
    (hfont : c.fontAddress.toNat + font.length ≤ c.memorySize)
    (hprogram : c.programAddress.toNat + program.length ≤ c.memorySize) :
    ∃ e, new c unseeded font program = .ok e ∧ ∀ events, (e.after events).Conforms c ∧
      ∀ event, (e.after (events ++ [event])).machine.stack.capacity < wordLimit →
        (e.after events).handleChecked event = pure ((e.after events).handle event) := by
  have hnew : new c unseeded font program = .ok (built c unseeded font program) :=
    new_eq_ok_iff.mpr ⟨hvalid, hfits, hfont, hprogram, rfl⟩
  refine ⟨built c unseeded font program, hnew, fun events => ?_⟩
  have hsmall := lt_wordLimit_of_lt_allocationLimit hfits.display
  have hconforms := (conforms_built c unseeded font program).after events
  refine ⟨hconforms, fun event hstack => ?_⟩
  rw [after_append] at hstack
  exact handleChecked_eq hconforms (Config.valid_of_validate hvalid) hsmall event hstack

-- One byte of memory, which calls itself, and no slot to begin with.
def singleByte : Config where
  memorySize := 1
  programAddress := 0
  fontAddress := 0
  stackSize := 0
  width := 3
  height := 2

theorem conforms_and_never_traps_singleByte :
    ∃ e, new singleByte (Vector.replicate 8 0) [] [0x22] = .ok e ∧
      (e.after [.update Timer.second]).Conforms singleByte ∧
      (e.after [.update Timer.second]).handleChecked (.update Timer.second) =
        pure ((e.after [.update Timer.second]).handle (.update Timer.second)) ∧
      (e.after [.update Timer.second, .update Timer.second]).machine.stack.live = [0, 0] := by
  obtain ⟨e, hnew, hrun⟩ := conforms_and_never_traps (c := singleByte) (by decide) (by decide)
    (Vector.replicate 8 0) [] [0x22] (by decide) (by decide)
  obtain ⟨hconforms, hchecked⟩ := hrun [.update Timer.second]
  obtain ⟨-, -, -, -, rfl⟩ := new_eq_ok_iff.mp hnew
  exact ⟨_, hnew, hconforms, hchecked (.update Timer.second) (by decide), by decide⟩

end Chip8.Emulator
