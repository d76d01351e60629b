import Chip8.Proofs.Machine.Redraw

namespace Chip8

namespace Display

section Pixels

variable {d : Display}

theorem pixel_foldl_toggle {cells : List (Nat × Nat)}
    (hinside : ∀ cell ∈ cells, cell.1 < d.width ∧ cell.2 < d.height) (hnodup : cells.Nodup)
    {x y : Nat} (hx : x < d.width) (hy : y < d.height) :
    (cells.foldl Display.toggle d).pixel x y = (d.pixel x y ^^ decide ((x, y) ∈ cells)) := by
  induction cells generalizing d with
  | nil => simp
  | cons cell rest ih =>
    obtain ⟨hfresh, hrest⟩ := List.nodup_cons.mp hnodup
    have hcell := hinside cell (by simp)
    have hlater : ∀ other ∈ rest, other.1 < d.width ∧ other.2 < d.height := fun other hother =>
      hinside other (by simp [hother])
    rw [List.foldl_cons, ih (d := d.toggle cell) hlater hrest hx hy, pixel_toggle hcell.1 hx hy]
    by_cases hsame : (x, y) = cell
    · simp [hsame, hfresh]
    · simp [hsame]

theorem pixel_draw (hempty : ¬ d.pixels.isEmpty) (x y : Nat) (sprite : List UInt8) (px py : Nat) :
    (d.draw x y sprite).2.pixel px py =
      (d.pixel px py ^^ decide ((px, py) ∈ d.spriteCells (x % d.width) (y % d.height) sprite)) := by
  by_cases hinside : px < d.width ∧ py < d.height
  · rw [Display.draw, if_neg hempty]
    exact pixel_foldl_toggle (fun cell hcell => spriteCells_inside hcell)
      (d.nodup_spriteCells _ _ _) hinside.1 hinside.2
  · have hout : (px, py) ∉ d.spriteCells (x % d.width) (y % d.height) sprite := fun hcell =>
      hinside (spriteCells_inside hcell)
    obtain ⟨hwidth, hheight⟩ := d.shape_draw x y sprite
    rw [pixel_of_outside (by rwa [hwidth, hheight]), pixel_of_outside hinside]
    simp [hout]

theorem hit_draw_iff {x y : Nat} {sprite : List UInt8} :
    (d.draw x y sprite).1 = true ↔
      ∃ px py, (px, py) ∈ d.spriteCells (x % d.width) (y % d.height) sprite ∧
        d.pixel px py = true := by
  by_cases hempty : d.pixels.isEmpty
  · simp [draw_of_isEmpty hempty, pixel_of_isEmpty hempty]
  · simp [draw, hempty]

-- The cells of a sprite, read off the pixel: which bit of which byte falls on it.
theorem mem_spriteCells_iff {x y px py : Nat} {sprite : List UInt8} :
    (px, py) ∈ d.spriteCells x y sprite ↔
      x ≤ px ∧ px < min (x + 8) d.width ∧ y ≤ py ∧ py < min (y + sprite.length) d.height ∧
        (sprite[py - y]?.getD 0).toNat.testBit (7 - (px - x)) = true := by
  rw [mem_spriteCells]
  constructor
  · rintro ⟨row, byte, column, hbyte, hrow, hcolumn, hbit, hwidth, heq⟩
    obtain ⟨rfl, rfl⟩ := Prod.mk.inj heq
    obtain ⟨hlength, -⟩ := List.getElem?_eq_some_iff.mp hbyte
    simp only [Nat.add_sub_cancel_left, hbyte, Option.getD_some]
    exact ⟨by omega, by omega, by omega, by omega, hbit⟩
  · rintro ⟨hleft, hright, htop, hbottom, hbit⟩
    have hlength : py - y < sprite.length := by omega
    rw [List.getElem?_eq_getElem hlength, Option.getD_some] at hbit
    exact ⟨py - y, _, px - x, List.getElem?_eq_getElem hlength, by omega, by omega, hbit,
      by omega, by simp only [Prod.mk.injEq]; omega⟩

end Pixels

end Display

namespace Machine

def originColumn (m : Machine) (x : Nibble) : Nat := (m.get x).toNat % m.display.width

def originRow (m : Machine) (y : Nibble) : Nat := (m.get y).toNat % m.display.height

-- The pixel lies under a set bit of the sprite of Dxyn.
structure SetsPixel (m : Machine) (x y n : Nibble) (px py : Nat) : Prop where
  left : m.originColumn x ≤ px
  right : px < min (m.originColumn x + 8) m.display.width
  top : m.originRow y ≤ py
  bottom : py < min (m.originRow y + n.val) m.display.height
  bit : (m.memory.read (m.registers.i.toNat + (py - m.originRow y))).toNat.testBit
    (7 - (px - m.originColumn x)) = true

-- The second machine is the first one with the pixels of a region turned over. Its
-- flag tells whether one of them was lit.
structure TurnsOver (m : Machine) (region : Nat → Nat → Prop) (next : Machine) : Prop where
  toggled : ∀ px py, region px py → next.display.pixel px py = !m.display.pixel px py
  kept : ∀ px py, ¬ region px py → next.display.pixel px py = m.display.pixel px py
  flag_hit : (∃ px py, region px py ∧ m.display.pixel px py = true) →
    next.get Registers.flagRegister = 1
  flag_no_hit : (¬ ∃ px py, region px py ∧ m.display.pixel px py = true) →
    next.get Registers.flagRegister = 0
  get_eq : ∀ r ≠ Registers.flagRegister, next.get r = m.get r

-- The second machine is the first one with the sprite of Dxyn drawn. The origin
-- and the pixels are those from before the flag is written.
structure DrawsSprite (m : Machine) (x y n : Nibble) (next : Machine) : Prop
    extends TurnsOver m (m.SetsPixel x y n) next where
  sized : next.display.Sized m.display.width m.display.height
  changed_eq : next.display.changed = true
  next_eq : next =
    { m with
      display := next.display
      registers := { m.registers with v := next.registers.v } }

section Drawing

variable {m : Machine} {x y n : Nibble}

theorem mem_spriteCells_iff_setsPixel {px py : Nat} :
    (px, py) ∈ m.display.spriteCells (m.originColumn x) (m.originRow y)
        (m.memory.readMany (m.indexAddress 0) n.val) ↔
      m.SetsPixel x y n px py := by
  have hlength : (m.memory.readMany (m.indexAddress 0) n.val).length = n.val := by
    simp [Memory.readMany]
  have hbyte (row : Nat) (hrow : row < n.val) :
      (m.memory.readMany (m.indexAddress 0) n.val)[row]?.getD 0 =
        m.memory.read (m.registers.i.toNat + row) := by
    simp [Memory.readMany, indexAddress, hrow]
  rw [Display.mem_spriteCells_iff, hlength]
  constructor
  · rintro ⟨hleft, hright, htop, hbottom, hbit⟩
    rw [hbyte _ (by omega)] at hbit
    exact ⟨hleft, hright, htop, hbottom, hbit⟩
  · rintro ⟨hleft, hright, htop, hbottom, hbit⟩
    rw [← hbyte _ (by omega)] at hbit
    exact ⟨hleft, hright, htop, hbottom, hbit⟩

theorem get_draw (m : Machine) (x y n r : Nibble) :
    (m.draw x y n).get r =
      if r = Registers.flagRegister then
        if (m.display.draw (m.get x).toNat (m.get y).toNat
          (m.memory.readMany (m.indexAddress 0) n.val)).1 then 1 else 0
      else m.get r :=
  get_setFlag _ _ r

theorem drawsSprite_draw (hempty : ¬ m.display.pixels.isEmpty) :
    m.DrawsSprite x y n (m.draw x y n) := by
  have hcells (px py : Nat) : (px, py) ∈ m.display.spriteCells ((m.get x).toNat % m.display.width)
      ((m.get y).toNat % m.display.height) (m.memory.readMany (m.indexAddress 0) n.val) ↔
        m.SetsPixel x y n px py := mem_spriteCells_iff_setsPixel
  have hpixel (px py : Nat) : (m.draw x y n).display.pixel px py =
      (m.display.pixel px py ^^ decide ((px, py) ∈ m.display.spriteCells
        ((m.get x).toNat % m.display.width) ((m.get y).toNat % m.display.height)
        (m.memory.readMany (m.indexAddress 0) n.val))) :=
    Display.pixel_draw hempty _ _ _ px py
  have hhit : (m.display.draw (m.get x).toNat (m.get y).toNat
      (m.memory.readMany (m.indexAddress 0) n.val)).1 = true ↔
        ∃ px py, m.SetsPixel x y n px py ∧ m.display.pixel px py = true := by
    simp only [Display.hit_draw_iff, hcells]
  refine ⟨⟨?_, ?_, ?_, ?_, ?_⟩, ?_, Display.changed_draw hempty _ _ _, rfl⟩
  · intro px py hsets
    have hcell := (hcells px py).mpr hsets
    simp [hpixel, hcell]
  · intro px py hno
    have hcell := mt (hcells px py).mp hno
    simp [hpixel, hcell]
  · intro hlit
    rw [get_draw, hhit.mpr hlit]
    rfl
  · intro hdark
    rw [get_draw, if_pos rfl, if_neg (mt hhit.mp hdark)]
  · intro r hr
    rw [get_draw, if_neg hr]
  · obtain ⟨hwidth, hheight⟩ := m.display.shape_draw (m.get x).toNat (m.get y).toNat
      (m.memory.readMany (m.indexAddress 0) n.val)
    exact Display.sized_of_eq hwidth hheight

end Drawing

-- Dxyn draws its sprite on a display of any width and height, from every state of
-- the machine.
theorem draw_toggles_set_pixels {m : Machine} (hwidth : 0 < m.display.width)
    (hheight : 0 < m.display.height) (keys : Keypad) (address : UInt16) (x y n : Nibble) :
    (m.execute keys address (.draw x y n)).1 = .done ∧
      m.DrawsSprite x y n (m.execute keys address (.draw x y n)).2 :=
  ⟨rfl, drawsSprite_draw (Display.not_isEmpty hwidth hheight)⟩

-- Five columns and three rows, of which one pixel is lit, and one byte of memory.
-- The origin wraps to column three of row one; the sprite is cut at the right and
-- the bottom edge, and its last two bytes lie past the end of memory.
def edgeSprite : Machine :=
  { ofConfig { memorySize := 1, programAddress := 0, fontAddress := 0, width := 5, height := 3 }
      ⟨Vector.replicate 8 0, 0⟩ with
    memory := ⟨#[0xE0]⟩
    display := (Display.blank 5 3).toggle (4, 1)
    registers := ((Registers.atAddress 0).set 0xF 8).set 0 4 }

theorem draw_toggles_set_pixels_edge :
    edgeSprite.display.Sized 5 3 ∧
      edgeSprite.DrawsSprite 0xF 0 3 (edgeSprite.execute .released 0 (.draw 0xF 0 3)).2 ∧
      (edgeSprite.execute .released 0 (.draw 0xF 0 3)).2.display.pixel 3 1 = true ∧
      (edgeSprite.execute .released 0 (.draw 0xF 0 3)).2.display.pixel 4 1 = false ∧
      (edgeSprite.execute .released 0 (.draw 0xF 0 3)).2.get 0xF = 1 := by
  have hwidth : 0 < edgeSprite.display.width := by decide
  have hheight : 0 < edgeSprite.display.height := by decide
  obtain ⟨-, hdraws⟩ := draw_toggles_set_pixels hwidth hheight .released 0 0xF 0 3
  have hleft : edgeSprite.SetsPixel 0xF 0 3 3 1 :=
    ⟨by decide, by decide, by decide, by decide, by decide⟩
  have hright : edgeSprite.SetsPixel 0xF 0 3 4 1 :=
    ⟨by decide, by decide, by decide, by decide, by decide⟩
  refine ⟨Display.sized_of_eq rfl rfl, hdraws, ?_, ?_, ?_⟩
  · rw [hdraws.toggled 3 1 hleft]
    decide
  · rw [hdraws.toggled 4 1 hright]
    decide
  · exact hdraws.flag_hit ⟨4, 1, hright, by decide⟩

end Machine

end Chip8
