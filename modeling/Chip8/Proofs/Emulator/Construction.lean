import Chip8.Proofs.Emulator.Clocks
import Chip8.Proofs.Machine.Raster

namespace Chip8.Emulator

def Covers (start : UInt16) (image : List UInt8) (a : Nat) : Prop :=
  start.toNat ≤ a ∧ a < start.toNat + image.length

-- Memory holds the program, what the program leaves of the font, and zeros.
structure HoldsImages (memory : Memory) (c : Config) (font program : List UInt8) : Prop where
  size_eq : memory.size = c.memorySize
  program_byte : ∀ (k : Nat) (hk : k < program.length),
    memory.read (c.programAddress.toNat + k) = program[k]
  font_byte : ∀ (k : Nat) (hk : k < font.length),
    ¬ Covers c.programAddress program (c.fontAddress.toNat + k) →
      memory.read (c.fontAddress.toNat + k) = font[k]
  other_byte : ∀ a, ¬ Covers c.programAddress program a → ¬ Covers c.fontAddress font a →
    memory.read a = 0

structure Fresh (e : Emulator) (c : Config) (font program : List UInt8) : Prop where
  images : HoldsImages e.machine.memory c font program
  counter : e.machine.registers.pc = c.programAddress
  register : ∀ r, e.machine.get r = 0
  index : e.machine.registers.i = 0
  stack : e.machine.stack.live = []
  pixel : ∀ x y, e.machine.display.pixel x y = false
  unchanged : e.machine.display.changed = false
  shape : e.machine.display.width = c.width ∧ e.machine.display.height = c.height
  timer : ∀ clock : Clock, (clock.timer e).value = 0 ∧ (clock.timer e).elapsed = 0 ∧
    (clock.timer e).frequency = clock.rate c
  sound : e.machine.sound = 0
  key : ∀ key, e.keys.isDown key = false
  no_frame : e.frameDue = false

-- The first step that fails, and its error: the configuration, the count of the
-- pixels, an allocation, then the font, then the program. An image is compared with
-- the room behind its address.
inductive Refuses (c : Config) (font program : List UInt8) : LoadError → Prop where
  | config (cause : ConfigError) : c.validate = .error cause →
    Refuses c font program (.invalidConfig cause)
  | pixels : c.validate = .ok () → wordLimit ≤ c.width * c.height →
    Refuses c font program (.overflow .multiplication)
  | allocation : c.validate = .ok () → c.width * c.height < wordLimit → ¬ c.Allocatable →
    Refuses c font program (.overflow .capacity)
  | font : c.validate = .ok () → c.Allocatable →
    c.memorySize - c.fontAddress.toNat < font.length →
    Refuses c font program (.imageTooLarge .font c.fontAddress font.length
      (c.memorySize - c.fontAddress.toNat))
  | program : c.validate = .ok () → c.Allocatable →
    c.fontAddress.toNat + font.length ≤ c.memorySize →
    c.memorySize - c.programAddress.toNat < program.length →
    Refuses c font program (.imageTooLarge .program c.programAddress program.length
      (c.memorySize - c.programAddress.toNat))

def GivesFont (files : Files) : Option String → List UInt8 → Prop
  | some path, bytes => files path = .ok bytes
  | none, bytes => bytes = font

-- Construction from files reads the font, then the program, and then goes on
-- with their bytes.
structure ReadsFirst (files : Files) (c : Config) (unseeded : RandomKey)
    (fontPath? : Option String) (programPath : String) : Prop where
  font : ∀ path cause, fontPath? = some path → files path = .error cause →
    ofFiles files c unseeded fontPath? programPath = .error (.unreadable .font path cause)
  program : ∀ fontBytes cause, GivesFont files fontPath? fontBytes →
    files programPath = .error cause →
    ofFiles files c unseeded fontPath? programPath =
      .error (.unreadable .program programPath cause)
  images : ∀ fontBytes program, GivesFont files fontPath? fontBytes →
    files programPath = .ok program →
    ofFiles files c unseeded fontPath? programPath = new c unseeded fontBytes program

section Images

variable {c : Config} {font program : List UInt8}

theorem holdsImages_write (hfont : c.fontAddress.toNat + font.length ≤ c.memorySize)
    (hprogram : c.programAddress.toNat + program.length ≤ c.memorySize) :
    HoldsImages (((Memory.blank c.memorySize).write c.fontAddress.toNat font).write
      c.programAddress.toNat program) c font program := by
  have houtside {start : UInt16} {image : List UInt8} {a : Nat} (h : ¬ Covers start image a) :
      a < start.toNat ∨ start.toNat + image.length ≤ a := by
    unfold Covers at h
    omega
  refine ⟨by simp [Memory.size_blank], ?_, ?_, ?_⟩
  · intro k hk
    exact Memory.read_write_inside _ _ _ hk (by simp [Memory.size_blank]; omega)
  · intro k hk hcovers
    rw [Memory.read_write_outside _ _ _ (houtside hcovers)]
    exact Memory.read_write_inside _ _ _ hk (by simp [Memory.size_blank]; omega)
  · intro a hno hno'
    rw [Memory.read_write_outside _ _ _ (houtside hno),
      Memory.read_write_outside _ _ _ (houtside hno'), Memory.read_blank]

theorem fresh_built (unseeded : RandomKey)
    (hfont : c.fontAddress.toNat + font.length ≤ c.memorySize)
    (hprogram : c.programAddress.toNat + program.length ≤ c.memorySize) :
    (built c unseeded font program).Fresh c font program where
  images := holdsImages_write hfont hprogram
  counter := rfl
  register r := Vector.getElem_replicate r.val_lt
  index := rfl
  stack := CallStack.live_empty _
  pixel := Display.pixel_blank
  unchanged := rfl
  shape := ⟨rfl, rfl⟩
  timer clock := by cases clock <;> exact ⟨rfl, rfl, rfl⟩
  sound := rfl
  key := Keypad.isDown_released
  no_frame := rfl

end Images

section Errors

variable {c : Config} {unseeded : RandomKey} {font program : List UInt8}

theorem checkFits_of_lt {memory : Memory} {address : UInt16} {bytes : List UInt8} (image : Image)
    (h : memory.size < address.toNat + bytes.length) :
    checkFits memory image address bytes =
      .error (.imageTooLarge image address bytes.length (memory.size - address.toNat)) := by
  have hfits : ¬ address.toNat + bytes.length ≤ memory.size := by omega
  simp [checkFits, Memory.fits, hfits]

theorem new_of_refuses {error : LoadError} (h : Refuses c font program error) :
    new c unseeded font program = .error error := by
  have hsize : (Memory.blank c.memorySize).size = c.memorySize := Memory.size_blank _
  cases h with
  | config cause hcause => exact new_of_machine_error (Machine.new_of_invalid hcause)
  | pixels hvalid hlarge => exact new_of_machine_error (Machine.new_of_wordLimit_le hvalid hlarge)
  | allocation hvalid hword hlarge =>
    exact new_of_machine_error (Machine.new_of_not_allocatable hvalid hword hlarge)
  | font hvalid hallocatable hlarge =>
    rw [new_of_allocatable hvalid hallocatable, checkFits_of_lt .font (by omega), hsize]
    rfl
  | program hvalid hallocatable hfont hlarge =>
    have hfits : checkFits (.blank c.memorySize) .font c.fontAddress font = .ok () :=
      checkFits_eq_ok_iff.mpr (by omega)
    rw [new_of_allocatable hvalid hallocatable, hfits, checkFits_of_lt .program (by omega), hsize]
    rfl

theorem exists_refuses (h : ¬ (c.validate = .ok () ∧ c.Allocatable ∧
    c.fontAddress.toNat + font.length ≤ c.memorySize ∧
      c.programAddress.toNat + program.length ≤ c.memorySize)) :
    ∃ error, Refuses c font program error := by
  rcases hvalid : c.validate with cause | ⟨⟨⟩⟩
  · exact ⟨_, .config cause hvalid⟩
  have hbounds := Config.valid_of_validate hvalid
  have hfontAddress := hbounds.fontAddress_lt
  have hprogramAddress := hbounds.programAddress_lt
  by_cases hword : wordLimit ≤ c.width * c.height
  · exact ⟨_, .pixels hvalid hword⟩
  by_cases hlarge : ¬ c.Allocatable
  · exact ⟨_, .allocation hvalid (Nat.lt_of_not_le hword) hlarge⟩
  have hallocatable := Decidable.not_not.mp hlarge
  by_cases hfont : c.fontAddress.toNat + font.length ≤ c.memorySize
  · have hprogram : ¬ c.programAddress.toNat + program.length ≤ c.memorySize :=
      fun hprogram => h ⟨hvalid, hallocatable, hfont, hprogram⟩
    exact ⟨_, .program hvalid hallocatable hfont (by omega)⟩
  · exact ⟨_, .font hvalid hallocatable (by omega)⟩

theorem exists_new_iff :
    (∃ e, new c unseeded font program = .ok e) ↔
      c.validate = .ok () ∧ c.Allocatable ∧ c.fontAddress.toNat + font.length ≤ c.memorySize ∧
        c.programAddress.toNat + program.length ≤ c.memorySize := by
  simp only [new_eq_ok_iff, exists_and_left, exists_eq, and_true]

theorem new_eq_error_iff {error : LoadError} :
    new c unseeded font program = .error error ↔ Refuses c font program error := by
  constructor
  · intro h
    have hno : ¬ ∃ e, new c unseeded font program = .ok e := by simp [h]
    obtain ⟨first, hfirst⟩ := exists_refuses (mt exists_new_iff.mpr hno)
    obtain rfl : error = first := Except.error.inj (h.symm.trans (new_of_refuses hfirst))
    exact hfirst
  · exact new_of_refuses

end Errors

section Reading

variable {files : Files}

theorem readImage_of_ok {path : String} {bytes : List UInt8} (h : files path = .ok bytes)
    (image : Image) : readImage files image path = .ok bytes := by
  rw [readImage, h]
  rfl

theorem readImage_of_error {path : String} {cause : ReadFailure} (h : files path = .error cause)
    (image : Image) : readImage files image path = .error (.unreadable image path cause) := by
  rw [readImage, h]
  rfl

theorem readImages_of_font {fontPath? : Option String} {fontBytes : List UInt8}
    (h : GivesFont files fontPath? fontBytes) (programPath : String) :
    readImages files fontPath? programPath =
      (readImage files .program programPath).map (fontBytes, ·) := by
  unfold readImages
  cases fontPath? with
  | none =>
    obtain rfl : fontBytes = Chip8.font := h
    rfl
  | some path =>
    simp only [readImage_of_ok h]
    rfl

theorem readsFirst (files : Files) (c : Config) (unseeded : RandomKey)
    (fontPath? : Option String) (programPath : String) :
    ReadsFirst files c unseeded fontPath? programPath := by
  refine ⟨?_, ?_, ?_⟩
  · rintro path cause rfl h
    simp only [ofFiles, readImages, readImage_of_error h]
    rfl
  · intro fontBytes cause hfont h
    rw [ofFiles, readImages_of_font hfont, readImage_of_error h]
    rfl
  · intro fontBytes program hfont h
    rw [ofFiles, readImages_of_font hfont, readImage_of_ok h]
    rfl

end Reading

-- Construction succeeds exactly if the configuration is valid, what it asks for can
-- be allocated and both images fit, and gives a fresh emulator then; and it fails
-- exactly with the error of the first step that does not succeed. Files are read
-- before all of these.
theorem construction_fails_at_first_check (c : Config) (unseeded : RandomKey)
    (font program : List UInt8) :
    ((∃ e, new c unseeded font program = .ok e) ↔
      c.validate = .ok () ∧ c.Allocatable ∧ c.fontAddress.toNat + font.length ≤ c.memorySize ∧
        c.programAddress.toNat + program.length ≤ c.memorySize) ∧
    (∀ e, new c unseeded font program = .ok e → e.Fresh c font program) ∧
    (∀ error, new c unseeded font program = .error error ↔ Refuses c font program error) ∧
    ∀ files fontPath? programPath, ReadsFirst files c unseeded fontPath? programPath := by
  refine ⟨exists_new_iff, ?_, fun error => new_eq_error_iff, ?_⟩
  · intro e hnew
    obtain ⟨-, -, hfont, hprogram, rfl⟩ := new_eq_ok_iff.mp hnew
    exact fresh_built unseeded hfont hprogram
  · intro files fontPath? programPath
    exact readsFirst files c unseeded fontPath? programPath

-- Both sides are valid, and a word cannot count the pixels.
def tallDisplay : Config where
  width := 8
  height := 0x2000000000000000

theorem tall_display_not_constructed :
    tallDisplay.validate = .ok () ∧
      tallDisplay.fontAddress.toNat + Chip8.font.length ≤ tallDisplay.memorySize ∧
      tallDisplay.programAddress.toNat + [0x12, 0x00].length ≤ tallDisplay.memorySize ∧
      ∀ unseeded, new tallDisplay unseeded Chip8.font [0x12, 0x00] =
        .error (.overflow .multiplication) := by
  have hvalid : tallDisplay.validate = .ok () := by decide
  have hlarge : wordLimit ≤ tallDisplay.width * tallDisplay.height := by decide
  exact ⟨hvalid, by decide, by decide, fun _ => new_of_refuses (.pixels hvalid hlarge)⟩

end Chip8.Emulator
