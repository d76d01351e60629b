import Chip8.Emulator.Run
import Chip8.Proofs.Machine.Conformance

namespace Chip8.Emulator

def built (c : Config) (unseeded : RandomKey) (font program : List UInt8) : Emulator where
  machine := withImages (.ofConfig c (Machine.randomStream c unseeded)) c font program
  keys := .released
  frameClock := .ofFrequency c.frameRate
  frameDue := false

theorem checkFits_eq_ok_iff {memory : Memory} {image : Image} {address : UInt16}
    {bytes : List UInt8} :
    checkFits memory image address bytes = .ok () ↔
      address.toNat + bytes.length ≤ memory.size := by
  unfold checkFits Memory.fits
  split
  · rename_i h
    exact ⟨fun _ => of_decide_eq_true h, fun _ => rfl⟩
  · rename_i h
    exact ⟨nofun, fun hle => absurd (decide_eq_true hle) h⟩

section Construction

variable {c : Config} {unseeded : RandomKey} {font program : List UInt8}

theorem new_of_machine_error {error : LoadError} (h : Machine.new c unseeded = .error error) :
    new c unseeded font program = .error error := by
  rw [new, h]
  rfl

theorem new_of_allocatable (h : c.validate = .ok ()) (hfits : c.Allocatable) :
    new c unseeded font program = (do
      checkFits (.blank c.memorySize) .font c.fontAddress font
      checkFits (.blank c.memorySize) .program c.programAddress program
      return built c unseeded font program) := by
  rw [new, Machine.new_of_allocatable h hfits]
  rfl

theorem machine_of_new {e : Emulator} (h : new c unseeded font program = .ok e) :
    c.validate = .ok () ∧ c.Allocatable := by
  rcases hvalid : c.validate with cause | ⟨⟨⟩⟩
  · rw [new_of_machine_error (Machine.new_of_invalid hvalid)] at h
    contradiction
  refine ⟨rfl, ?_⟩
  by_contra hlarge
  by_cases hword : c.width * c.height < wordLimit
  · rw [new_of_machine_error (Machine.new_of_not_allocatable hvalid hword hlarge)] at h
    contradiction
  · rw [new_of_machine_error (Machine.new_of_wordLimit_le hvalid (Nat.not_lt.mp hword))] at h
    contradiction

-- Construction succeeds exactly for a valid configuration that can be allocated
-- and images that fit, and then has one result.
theorem new_eq_ok_iff {e : Emulator} :
    new c unseeded font program = .ok e ↔
      c.validate = .ok () ∧ c.Allocatable ∧ c.fontAddress.toNat + font.length ≤ c.memorySize ∧
        c.programAddress.toNat + program.length ≤ c.memorySize ∧
        e = built c unseeded font program := by
  have hfont := @checkFits_eq_ok_iff (.blank c.memorySize) .font c.fontAddress font
  have hprogram := @checkFits_eq_ok_iff (.blank c.memorySize) .program c.programAddress program
  rw [Memory.size_blank] at hfont hprogram
  rw [← hfont, ← hprogram]
  constructor
  · intro h
    obtain ⟨hvalid, hfits⟩ := machine_of_new h
    rw [new_of_allocatable hvalid hfits] at h
    refine ⟨hvalid, hfits, ?_⟩
    revert h
    rcases checkFits (.blank c.memorySize) .font c.fontAddress font with error | ⟨⟨⟩⟩
    · exact nofun
    rcases checkFits (.blank c.memorySize) .program c.programAddress program with error | ⟨⟨⟩⟩
    · exact nofun
    intro h
    exact ⟨rfl, rfl, (Except.ok.inj h).symm⟩
  · rintro ⟨hvalid, hfits, hfont, hprogram, rfl⟩
    rw [new_of_allocatable hvalid hfits, hfont, hprogram]
    rfl

theorem new_blank (hvalidate : c.validate = .ok ()) (hfits : c.Allocatable) :
    new c (Vector.replicate 8 0) [] [] = .ok (built c (Vector.replicate 8 0) [] []) := by
  have hvalid := Config.valid_of_validate hvalidate
  exact new_eq_ok_iff.mpr ⟨hvalidate, hfits, Nat.le_of_lt hvalid.fontAddress_lt,
    Nat.le_of_lt hvalid.programAddress_lt, rfl⟩

end Construction

structure Conforms (e : Emulator) (c : Config) : Prop where
  machine : e.machine.Conforms c
  frameClock : e.frameClock.Paced c.frameRate c.frameRate.toNat

theorem memorySize_built (c : Config) (unseeded : RandomKey) (font program : List UInt8) :
    (built c unseeded font program).machine.memory.size = c.memorySize := by
  show ((Memory.write _ _ _).write _ _).size = c.memorySize
  rw [Memory.size_write, Memory.size_write]
  exact Memory.size_blank _

theorem conforms_built (c : Config) (unseeded : RandomKey) (font program : List UInt8) :
    (built c unseeded font program).Conforms c := by
  have hblank := Machine.conforms_ofConfig c (Machine.randomStream c unseeded)
  exact ⟨{ hblank with memorySize := memorySize_built c unseeded font program },
    Timer.paced_ofFrequency _ _⟩

variable {e : Emulator} {c : Config}

theorem Conforms.update (h : e.Conforms c) (delta : Nat) : (e.update delta).2.Conforms c :=
  ⟨h.machine.tick e.keys delta, h.frameClock.tick (Nat.le_refl _) delta⟩

theorem Conforms.takeFrame (h : e.Conforms c) : e.takeFrame.2.Conforms c := by
  unfold Emulator.takeFrame
  split
  · exact ⟨{ h.machine with display := h.machine.display.settled }, h.frameClock⟩
  · exact h

theorem Conforms.handle (h : e.Conforms c) (event : Event) : (e.handle event).2.Conforms c := by
  cases event with
  | update delta => exact h.update delta
  | setKey key down => exact ⟨h.machine, h.frameClock⟩
  | takeFrame => exact h.takeFrame

theorem Conforms.after (h : e.Conforms c) (events : List Event) : (e.after events).Conforms c := by
  induction events generalizing e with
  | nil => exact h
  | cons event rest ih => exact ih (h.handle event)

-- A state that some run of some emulator leads to.
def Reachable (s : Emulator) : Prop :=
  ∃ c unseeded font program e events,
    new c unseeded font program = .ok e ∧ e.after events = s

theorem memorySize_after (e : Emulator) (events : List Event) :
    (e.after events).machine.memory.size = e.machine.memory.size := by
  induction events generalizing e with
  | nil => rfl
  | cons event rest ih =>
    rw [after_cons, ih]
    cases event with
    | update delta => exact e.machine.memorySize_tick e.keys delta
    | setKey key down => rfl
    | takeFrame =>
      show e.takeFrame.2.machine.memory.size = _
      rw [snd_takeFrame]

theorem Reachable.memorySize_bounds {s : Emulator} (h : s.Reachable) :
    0 < s.machine.memory.size ∧ s.machine.memory.size ≤ 0x10000 := by
  obtain ⟨c, unseeded, font, program, e, events, hnew, rfl⟩ := h
  obtain ⟨hvalidate, -, -, -, rfl⟩ := new_eq_ok_iff.mp hnew
  have hvalid := Config.valid_of_validate hvalidate
  rw [memorySize_after, memorySize_built]
  exact ⟨hvalid.memorySize_pos, hvalid.memorySize_le⟩

end Chip8.Emulator
