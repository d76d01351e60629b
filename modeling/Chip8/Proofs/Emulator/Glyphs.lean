import Chip8.Proofs.Emulator.Construction
import Chip8.Proofs.Emulator.Countdown
import Chip8.Proofs.Machine.Footprint
import Chip8.Proofs.Machine.Sprite

namespace Chip8

def glyph (font : List UInt8) (digit : Nibble) : List UInt8 :=
  (font.drop (digit.val * glyphHeight)).take glyphHeight

namespace Memory

def HoldsGlyphs (memory : Memory) (address : UInt16) (font : List UInt8) : Prop :=
  ∀ k < 16 * glyphHeight, some (memory.read (address.toNat + k)) = font[k]?

theorem HoldsGlyphs.readMany {memory : Memory} {address : UInt16} {font : List UInt8}
    (h : memory.HoldsGlyphs address font) (digit : Nibble) :
    memory.readMany (address.toNat + digit.val * glyphHeight) glyphHeight = glyph font digit := by
  have hdigit := digit.val_lt
  apply List.ext_getElem?
  intro k
  by_cases hk : k < glyphHeight
  · have hbyte := h (digit.val * glyphHeight + k) (by unfold glyphHeight at *; omega)
    simp [Memory.readMany, glyph, hk, ← hbyte, Nat.add_assoc]
  · have hpast := Nat.le_of_not_lt hk
    have hrows : (glyph font digit).length ≤ k := Nat.le_trans (List.length_take_le _ _) hpast
    rw [List.getElem?_eq_none (by simpa [Memory.readMany] using hpast), List.getElem?_eq_none hrows]

end Memory

namespace Machine

-- I stands at the glyph of a digit, and all of its rows lie inside memory. The
-- address is the sum itself: it has not wrapped.
structure AtGlyph (m : Machine) (fontAddress : UInt16) (font : List UInt8) (digit : Nibble) :
    Prop where
  index_eq : m.registers.i.toNat = fontAddress.toNat + 5 * digit.val
  inside : m.registers.i.toNat + 5 ≤ m.memory.size
  rows_eq : m.memory.readMany m.registers.i.toNat 5 = glyph font digit

-- The pixel lies under a set bit of the rows, when their upper left corner is at the
-- pixel of Vx and Vy.
structure UnderRows (m : Machine) (x y : Nibble) (rows : List UInt8) (px py : Nat) : Prop where
  left : m.originColumn x ≤ px
  right : px < min (m.originColumn x + 8) m.display.width
  top : m.originRow y ≤ py
  bottom : py < min (m.originRow y + rows.length) m.display.height
  bit : (rows[py - m.originRow y]?.getD 0).toNat.testBit (7 - (px - m.originColumn x)) = true

-- The second machine is the first one with the rows drawn.
def DrawsRows (m : Machine) (x y : Nibble) (rows : List UInt8) (next : Machine) : Prop :=
  m.TurnsOver (m.UnderRows x y rows) next

section Ticks

variable {m : Machine} {keys : Keypad} {delta : Nat} {x y n : Nibble} {font : List UInt8}

theorem read_tick_of_not_stores {a : Nat}
    (h : ∀ i, (m.tick keys delta).1.map Cycle.instruction = some i → ¬ i.Stores m a) :
    (m.tick keys delta).2.memory.read a = m.memory.read a := by
  cases hdue : m.clock.due delta with
  | false =>
    rw [tick_of_not_due hdue]
    rfl
  | true =>
    rw [tick_of_due hdue] at h ⊢
    exact read_execute_of_not_stores (m := (m.timed delta).advance) (h _ rfl)

-- With room for sixteen glyphs behind the font address the sum does not wrap.
theorem atGlyph_tick (hroom : m.fontAddress.toNat + 16 * glyphHeight ≤ m.memory.size)
    (hlimit : m.memory.size ≤ 0x10000) (hglyphs : m.memory.HoldsGlyphs m.fontAddress font)
    (hload : (m.tick keys delta).1.map Cycle.instruction = some (.loadGlyph x)) :
    (m.tick keys delta).2.AtGlyph m.fontAddress font (Nibble.low (m.get x)) := by
  have hdigit := (Nibble.low (m.get x)).val_lt
  have hindex : (m.tick keys delta).2.registers.i.toNat =
      m.fontAddress.toNat + (Nibble.low (m.get x)).val * glyphHeight := by
    rw [tick_of_instruction hload]
    show (m.fontAddress + UInt16.ofNat ((Nibble.low (m.get x)).val * glyphHeight)).toNat = _
    rw [UInt16.toNat_add, UInt16.toNat_ofNat']
    unfold glyphHeight at *
    omega
  have hmemory : (m.tick keys delta).2.memory = m.memory := by
    rw [tick_of_instruction hload]
    rfl
  refine ⟨?_, ?_, ?_⟩
  · rw [hindex, Nat.mul_comm]
    rfl
  · rw [hindex, hmemory]
    unfold glyphHeight at *
    omega
  · rw [hindex, hmemory]
    exact hglyphs.readMany _

theorem underRows_iff {rows : List UInt8} {px py : Nat} :
    m.UnderRows x y rows px py ↔
      (px, py) ∈ m.display.spriteCells (m.originColumn x) (m.originRow y) rows := by
  rw [Display.mem_spriteCells_iff]
  constructor
  · rintro ⟨hleft, hright, htop, hbottom, hbit⟩
    exact ⟨hleft, hright, htop, hbottom, hbit⟩
  · rintro ⟨hleft, hright, htop, hbottom, hbit⟩
    exact ⟨hleft, hright, htop, hbottom, hbit⟩

theorem setsPixel_iff {px py : Nat} :
    m.SetsPixel x y n px py ↔
      m.UnderRows x y (m.memory.readMany m.registers.i.toNat n.val) px py := by
  rw [underRows_iff, ← mem_spriteCells_iff_setsPixel]
  rfl

theorem drawsRows_tick (hempty : ¬ m.display.pixels.isEmpty)
    (hdraw : (m.tick keys delta).1.map Cycle.instruction = some (.draw x y n)) :
    m.DrawsRows x y (m.memory.readMany m.registers.i.toNat n.val) (m.tick keys delta).2 := by
  have hsprite : (m.timed delta).advance.DrawsSprite x y n ((m.timed delta).advance.draw x y n) :=
    drawsSprite_draw hempty
  -- time and the fetch leave the pixels, I and the V registers alone
  have hregion : (m.timed delta).advance.SetsPixel x y n =
      m.UnderRows x y (m.memory.readMany m.registers.i.toNat n.val) := by
    funext px py
    rw [setsPixel_iff, underRows_iff, underRows_iff]
    rfl
  rw [tick_of_instruction hdraw, DrawsRows, ← hregion]
  obtain ⟨htoggled, hkept, hhit, hdark, hget⟩ := hsprite.toTurnsOver
  exact ⟨htoggled, hkept, hhit, hdark, hget⟩

end Ticks

end Machine

namespace Emulator

def Spares (e : Emulator) (a : Nat) : List Event → Prop
  | [] => True
  | event :: rest =>
    (∀ i, (e.handle event).1.instruction? = some i → ¬ i.Stores e.machine a) ∧
      (e.handle event).2.Spares a rest

def SameGlyphs (s e : Emulator) (fontAddress : UInt16) : Prop :=
  ∀ k < 16 * glyphHeight,
    s.machine.memory.read (fontAddress.toNat + k) = e.machine.memory.read (fontAddress.toNat + k)

-- The glyphs of a font stand where the configuration puts them, inside a memory
-- of 16-bit addresses.
structure HoldsFont (s : Emulator) (c : Config) (font : List UInt8) : Prop where
  fontAddress_eq : s.machine.fontAddress = c.fontAddress
  room : c.fontAddress.toNat + 16 * glyphHeight ≤ s.machine.memory.size
  limit : s.machine.memory.size ≤ 0x10000
  glyphs : s.machine.memory.HoldsGlyphs c.fontAddress font

section Run

variable {e : Emulator} {events : List Event}

theorem read_handle_of_not_stores {event : Event} {a : Nat}
    (h : ∀ i, (e.handle event).1.instruction? = some i → ¬ i.Stores e.machine a) :
    (e.handle event).2.machine.memory.read a = e.machine.memory.read a := by
  cases event with
  | update delta => exact Machine.read_tick_of_not_stores h
  | setKey key down => rfl
  | takeFrame =>
    show e.takeFrame.2.machine.memory.read a = _
    rw [snd_takeFrame]

theorem read_after_of_spares {a : Nat} (h : e.Spares a events) :
    (e.after events).machine.memory.read a = e.machine.memory.read a := by
  induction events generalizing e with
  | nil => rfl
  | cons event rest ih =>
    obtain ⟨hfirst, hrest⟩ := h
    rw [after_cons, ih hrest, read_handle_of_not_stores hfirst]

variable {s : Emulator} {c : Config} {font : List UInt8} {event : Event} {x y : Nibble}

theorem HoldsFont.atGlyph_handle (h : s.HoldsFont c font)
    (hload : (s.handle event).1.instruction? = some (.loadGlyph x)) :
    (s.handle event).2.machine.AtGlyph c.fontAddress font (Nibble.low (s.machine.get x)) := by
  obtain ⟨delta, rfl, hload⟩ := exists_update_of_instruction? hload
  obtain ⟨haddress, hroom, hlimit, hglyphs⟩ := h
  rw [← haddress] at hroom hglyphs ⊢
  exact Machine.atGlyph_tick hroom hlimit hglyphs hload

theorem HoldsFont.drawsRows_handle (h : s.HoldsFont c font)
    (hempty : ¬ s.machine.display.pixels.isEmpty)
    (hdraw : (s.handle event).1.instruction? = some (.draw x y 5)) {digit : Nibble}
    (hindex : s.machine.registers.i.toNat = c.fontAddress.toNat + 5 * digit.val) :
    s.machine.DrawsRows x y (glyph font digit) (s.handle event).2.machine := by
  obtain ⟨delta, rfl, hdraw⟩ := exists_update_of_instruction? hdraw
  have hdraws := Machine.drawsRows_tick hempty hdraw
  rw [hindex, Nat.mul_comm] at hdraws
  rw [← h.glyphs.readMany digit]
  exact hdraws

theorem fontAddress_after (e : Emulator) (events : List Event) :
    (e.after events).machine.fontAddress = e.machine.fontAddress := by
  induction events generalizing e with
  | nil => rfl
  | cons event rest ih =>
    rw [after_cons, ih]
    cases event with
    | update delta => exact e.machine.fontAddress_tick e.keys delta
    | setKey key down => rfl
    | takeFrame =>
      show e.takeFrame.2.machine.fontAddress = _
      rw [snd_takeFrame]

end Run

section Built

variable {c : Config} {unseeded : RandomKey} {font program : List UInt8} {e : Emulator}

theorem holdsGlyphs_of_images {memory : Memory} (himages : HoldsImages memory c font program)
    (hfont : 16 * glyphHeight ≤ font.length)
    (hapart : ∀ k < 16 * glyphHeight, ¬ Covers c.programAddress program (c.fontAddress.toNat + k)) :
    memory.HoldsGlyphs c.fontAddress font := by
  intro k hk
  rw [himages.font_byte k (by omega) (hapart k hk), List.getElem?_eq_getElem]

theorem holdsFont_after (hnew : new c unseeded font program = .ok e)
    (hfont : 16 * glyphHeight ≤ font.length)
    (hapart : ∀ k < 16 * glyphHeight, ¬ Covers c.programAddress program (c.fontAddress.toNat + k))
    {events : List Event} (hsame : (e.after events).SameGlyphs e c.fontAddress) :
    (e.after events).HoldsFont c font := by
  obtain ⟨hvalidate, -, hfits, hprogram, rfl⟩ := new_eq_ok_iff.mp hnew
  have hvalid := Config.valid_of_validate hvalidate
  have hfresh := fresh_built unseeded hfits hprogram
  have hsize := (memorySize_after (built c unseeded font program) events).trans
    (memorySize_built c unseeded font program)
  refine ⟨fontAddress_after _ events, ?_, ?_, ?_⟩
  · omega
  · exact hsize ▸ hvalid.memorySize_le
  · intro k hk
    rw [hsame k hk, holdsGlyphs_of_images hfresh.images hfont hapart k hk]

theorem not_isEmpty_after (hnew : new c unseeded font program = .ok e) (events : List Event) :
    ¬ (e.after events).machine.display.pixels.isEmpty := by
  obtain ⟨hvalidate, -, -, -, rfl⟩ := new_eq_ok_iff.mp hnew
  have hvalid := Config.valid_of_validate hvalidate
  obtain ⟨hwidth, hheight, -⟩ :=
    ((conforms_built c unseeded font program).after events).machine.display
  exact Display.not_isEmpty (hwidth ▸ hvalid.width_pos) (hheight ▸ hvalid.height_pos)

-- With a font of sixteen glyphs, clear of the program, a run that stores to none
-- of their bytes leaves them alone. Wherever they are as they were at first, an
-- update that executes Fx29 puts I at the glyph of the digit in Vx, and each update
-- after it that executes Dxy5 with I and the glyphs still so draws that glyph.
theorem glyphs_drawn_from_font (hnew : new c unseeded font program = .ok e)
    (hfont : 16 * glyphHeight ≤ font.length)
    (hapart : ∀ k < 16 * glyphHeight, ¬ Covers c.programAddress program (c.fontAddress.toNat + k)) :
    (∀ events, (∀ k < 16 * glyphHeight, e.Spares (c.fontAddress.toNat + k) events) →
      (e.after events).SameGlyphs e c.fontAddress) ∧
    ∀ events, (e.after events).SameGlyphs e c.fontAddress →
      ∀ event x, ((e.after events).handle event).1.instruction? = some (.loadGlyph x) →
        let next := ((e.after events).handle event).2
        let digit := Nibble.low ((e.after events).machine.get x)
        next.machine.AtGlyph c.fontAddress font digit ∧
        ∀ later, (next.after later).SameGlyphs e c.fontAddress →
          (next.after later).machine.registers.i = next.machine.registers.i →
          ∀ event' x' y',
            ((next.after later).handle event').1.instruction? = some (.draw x' y' 5) →
            (next.after later).machine.DrawsRows x' y' (glyph font digit)
              ((next.after later).handle event').2.machine := by
  refine ⟨?_, ?_⟩
  · intro events hspares k hk
    exact read_after_of_spares (hspares k hk)
  · intro events hsame event x hload next digit
    have hnext := (holdsFont_after hnew hfont hapart hsame).atGlyph_handle hload
    refine ⟨hnext, ?_⟩
    intro later hlater hindex event' x' y' hdraw
    have hafter : next.after later = e.after (events ++ event :: later) :=
      (after_append e events (event :: later)).symm
    rw [hafter] at hlater hindex hdraw ⊢
    have hholds := holdsFont_after hnew hfont hapart hlater
    apply hholds.drawsRows_handle (not_isEmpty_after hnew (events ++ event :: later)) hdraw
    rw [hindex, hnext.index_eq]

-- The glyphs take the last eighty bytes of memory, right behind the program, which
-- draws the last of them.
def fontAtEnd : Config where
  memorySize := 86
  programAddress := 0
  fontAddress := 6
  width := 6
  height := 6

def lastGlyphProgram : List UInt8 := [0x60, 0x0F, 0xF0, 0x29, 0xD1, 0x25]

def lastGlyphEmulator : Emulator :=
  built fontAtEnd (Vector.replicate 8 0) Chip8.font lastGlyphProgram

-- V0 holds the digit and I stands at its glyph.
def lastGlyphIndexed : Emulator :=
  ((lastGlyphEmulator.after [.update Timer.second]).handle (.update Timer.second)).2

theorem glyphs_drawn_from_font_atEnd :
    new fontAtEnd (Vector.replicate 8 0) Chip8.font lastGlyphProgram = .ok lastGlyphEmulator ∧
      (lastGlyphEmulator.after [.update Timer.second]).SameGlyphs lastGlyphEmulator 6 ∧
      lastGlyphIndexed.machine.AtGlyph 6 Chip8.font 0xF ∧
      let s := lastGlyphIndexed.after [.setKey 3 true]
      let next := (s.handle (.update Timer.second)).2
      s.machine.DrawsRows 1 2 [0xF0, 0x80, 0xF0, 0x80, 0x80] next.machine ∧
        next.machine.display.pixel 3 0 = true ∧ next.machine.display.pixel 3 1 = false := by
  have hnew : new fontAtEnd (Vector.replicate 8 0) Chip8.font lastGlyphProgram =
      .ok lastGlyphEmulator := new_eq_ok_iff.mpr ⟨by decide, by decide, by decide, by decide, rfl⟩
  have hapart : ∀ k < 16 * glyphHeight,
      ¬ Covers fontAtEnd.programAddress lastGlyphProgram (fontAtEnd.fontAddress.toNat + k) := by
    unfold Covers
    decide
  obtain ⟨hspared, hdrawn⟩ := glyphs_drawn_from_font hnew (Nat.le_of_eq length_font.symm) hapart
  have hload : (lastGlyphEmulator.handle (.update Timer.second)).1.instruction? =
      some (.load 0 0x0F) := by decide +kernel
  have hsame : (lastGlyphEmulator.after [.update Timer.second]).SameGlyphs lastGlyphEmulator 6 := by
    apply hspared
    intro k hk
    refine ⟨?_, trivial⟩
    intro i hi
    obtain rfl := Option.some.inj (hload.symm.trans hi)
    exact id
  have hmemory : (lastGlyphIndexed.after [.setKey 3 true]).machine.memory =
      lastGlyphEmulator.machine.memory := by decide +kernel
  have hlater : (lastGlyphIndexed.after [.setKey 3 true]).SameGlyphs lastGlyphEmulator 6 := by
    intro k hk
    rw [hmemory]
  have hindex : (lastGlyphIndexed.after [.setKey 3 true]).machine.registers.i =
      lastGlyphIndexed.machine.registers.i := by decide +kernel
  have hdigit :
      Nibble.low ((lastGlyphEmulator.after [.update Timer.second]).machine.get 0) = 0xF := by
    decide +kernel
  have hglyph := hdrawn _ hsame (.update Timer.second) 0 (by decide +kernel)
  rw [hdigit] at hglyph
  obtain ⟨hat, hdraws⟩ := hglyph
  unfold lastGlyphIndexed at *
  have hlast :=
    hdraws [.setKey 3 true] hlater hindex (.update Timer.second) 1 2 (by decide +kernel)
  refine ⟨hnew, hsame, hat, hlast, ?_, ?_⟩
  · refine (hlast.toggled 3 0 ?_).trans (by decide +kernel)
    exact Machine.underRows_iff.mpr (by decide +kernel)
  · refine (hlast.kept 3 1 ?_).trans (by decide +kernel)
    exact mt Machine.underRows_iff.mp (by decide +kernel)

end Built

end Emulator

end Chip8
