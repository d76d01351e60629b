import Mathlib.Data.List.Nodup
import Chip8.Machine.Display

namespace Chip8.Display

structure Sized (d : Display) (width height : Nat) : Prop where
  width_eq : d.width = width
  height_eq : d.height = height
  size_eq : d.pixels.size = width * height

theorem sized_of_eq {d : Display} {width height : Nat} (hwidth : d.width = width)
    (hheight : d.height = height) : d.Sized width height :=
  ⟨hwidth, hheight, by rw [d.size_eq, hwidth, hheight]⟩

theorem sized_of_new {width height : Nat} {d : Display} (h : new width height = .ok d) :
    d.Sized width height := by
  obtain ⟨-, rfl⟩ := new_eq_ok_iff.mp h
  exact sized_of_eq rfl rfl

section Pixels

variable {d : Display}

theorem pixel_of_outside {x y : Nat} (h : ¬ (x < d.width ∧ y < d.height)) :
    d.pixel x y = false := by
  simp [pixel, h]

theorem pixel_eq_of_inside {x y : Nat} (hx : x < d.width) (hy : y < d.height) :
    d.pixel x y = d.pixels[d.slot x y]?.getD false := by
  simp [pixel, hx, hy]

theorem pixel_of_replicate {count : Nat} (h : d.pixels = Array.replicate count false) (x y : Nat) :
    d.pixel x y = false := by
  by_cases hinside : x < d.width ∧ y < d.height
  · rw [pixel_eq_of_inside hinside.1 hinside.2, h, Array.getElem?_replicate]
    split <;> rfl
  · exact pixel_of_outside hinside

theorem pixel_blank {width height : Nat} (x y : Nat) : (blank width height).pixel x y = false :=
  pixel_of_replicate rfl x y

theorem pixel_clear (x y : Nat) : d.clear.pixel x y = false := pixel_of_replicate rfl x y

theorem pixel_of_isEmpty (h : d.pixels.isEmpty) (x y : Nat) : d.pixel x y = false := by
  have hnone : d.pixels = Array.replicate 0 false := Array.isEmpty_iff.mp h
  exact pixel_of_replicate hnone x y

end Pixels

section Shape

variable {d : Display} {width height : Nat}

theorem shape_foldl_toggle (d : Display) (cells : List (Nat × Nat)) :
    (cells.foldl Display.toggle d).width = d.width ∧
      (cells.foldl Display.toggle d).height = d.height := by
  induction cells generalizing d with
  | nil => exact ⟨rfl, rfl⟩
  | cons cell rest ih => exact ih (d.toggle cell)

theorem shape_draw (d : Display) (x y : Nat) (sprite : List UInt8) :
    (d.draw x y sprite).2.width = d.width ∧ (d.draw x y sprite).2.height = d.height := by
  unfold Display.draw
  split
  · exact ⟨rfl, rfl⟩
  · exact d.shape_foldl_toggle (d.spriteCells (x % d.width) (y % d.height) sprite)

theorem Sized.clear (h : d.Sized width height) : d.clear.Sized width height :=
  sized_of_eq h.width_eq h.height_eq

theorem Sized.settled (h : d.Sized width height) : d.settled.Sized width height :=
  sized_of_eq h.width_eq h.height_eq

theorem Sized.draw (h : d.Sized width height) (x y : Nat) (sprite : List UInt8) :
    (d.draw x y sprite).2.Sized width height := by
  obtain ⟨hwidth, hheight⟩ := d.shape_draw x y sprite
  exact sized_of_eq (hwidth.trans h.width_eq) (hheight.trans h.height_eq)

end Shape

section Slots

variable {d : Display}

theorem row_slot_lt {width height x y : Nat} (hx : x < width) (hy : y < height) :
    y * width + x < width * height := by
  have hrow : (y + 1) * width ≤ height * width := Nat.mul_le_mul_right width hy
  rw [Nat.add_mul, Nat.one_mul, Nat.mul_comm height] at hrow
  omega

theorem slot_lt {x y : Nat} (hx : x < d.width) (hy : y < d.height) :
    d.slot x y < d.pixels.size := by
  rw [d.size_eq]
  exact row_slot_lt hx hy

theorem slot_inj {x y x' y' : Nat} (hx : x < d.width) (hx' : x' < d.width)
    (h : d.slot x y = d.slot x' y') : x = x' ∧ y = y' := by
  have hpos : 0 < d.width := by omega
  have hrow : ∀ row column, column < d.width → (row * d.width + column) / d.width = row := by
    intro row column hcolumn
    rw [Nat.mul_comm, Nat.mul_add_div hpos, Nat.div_eq_of_lt hcolumn, Nat.add_zero]
  unfold slot at h
  have hy : y = y' := by rw [← hrow y x hx, h, hrow y' x' hx']
  subst hy
  exact ⟨by omega, rfl⟩

theorem getElem?_slot {x y : Nat} (hx : x < d.width) (hy : y < d.height) :
    d.pixels[d.slot x y]? = some (d.pixel x y) := by
  rw [pixel_eq_of_inside hx hy, Array.getElem?_eq_getElem (slot_lt hx hy)]
  rfl

theorem rows_eq (hpos : 0 < d.width) :
    d.rows = (Array.range d.height).map fun y => (Array.range d.width).map fun x => d.pixel x y := by
  have hwidth : max d.width 1 = d.width := by omega
  have hcount : (d.pixels.size + d.width - 1) / d.width = d.height := by
    rw [d.size_eq, Nat.add_sub_assoc hpos, Nat.mul_add_div hpos, Nat.div_eq_of_lt (by omega),
      Nat.add_zero]
  simp only [rows, hwidth, hcount]
  apply Array.map_congr_left
  intro y hy
  have hy := Array.mem_range.mp hy
  apply Array.ext_getElem?
  intro x
  have hrow : y * d.width + d.width ≤ d.pixels.size := by
    have hlast := row_slot_lt (Nat.sub_one_lt_of_lt hpos) hy
    rw [d.size_eq]
    omega
  by_cases hx : x < d.width
  · have hpixel : d.pixels[y * d.width + x]? = some (d.pixel x y) := getElem?_slot hx hy
    rw [Array.getElem?_extract, if_pos (by omega), hpixel]
    simp [hx]
  · rw [Array.getElem?_extract, if_neg (by omega)]
    simp [hx]

theorem pixel_toggle {x y x' y' : Nat} (hx : x < d.width) (hx' : x' < d.width)
    (hy' : y' < d.height) :
    (d.toggle (x, y)).pixel x' y' =
      if (x', y') = (x, y) then !d.pixel x' y' else d.pixel x' y' := by
  have hold := getElem?_slot hx' hy'
  have hnew : (d.pixels.modify (d.slot x y) not)[d.slot x' y']? =
      some ((d.toggle (x, y)).pixel x' y') := getElem?_slot (d := d.toggle (x, y)) hx' hy'
  rw [Array.getElem?_modify, hold] at hnew
  split at hnew
  · rename_i heq
    obtain ⟨rfl, rfl⟩ := slot_inj hx hx' heq
    rw [if_pos rfl]
    exact (Option.some.inj hnew).symm
  · rename_i hne
    rw [if_neg]
    · exact (Option.some.inj hnew).symm
    · rintro ⟨rfl, rfl⟩
      exact hne rfl

end Slots

section Cells

variable (d : Display) (x y : Nat)

def rowCells (byte : UInt8) (row : Nat) : List (Nat × Nat) :=
  ((setColumns byte).filter fun column => x + column < d.width).map fun column =>
    (x + column, y + row)

theorem spriteCells_eq (sprite : List UInt8) :
    d.spriteCells x y sprite =
      (sprite.take (d.height - y)).zipIdx.flatMap fun (byte, row) => d.rowCells x y byte row :=
  rfl

theorem mem_rowCells {byte : UInt8} {row : Nat} {cell : Nat × Nat} :
    cell ∈ d.rowCells x y byte row ↔
      ∃ column < 8, byte.toNat.testBit (7 - column) ∧ x + column < d.width ∧
        cell = (x + column, y + row) := by
  simp only [rowCells, setColumns, List.mem_map, List.mem_filter, List.mem_range,
    decide_eq_true_eq]
  constructor
  · rintro ⟨column, ⟨⟨hlt, hbit⟩, hwidth⟩, rfl⟩
    exact ⟨column, hlt, hbit, hwidth, rfl⟩
  · rintro ⟨column, hlt, hbit, hwidth, rfl⟩
    exact ⟨column, ⟨⟨hlt, hbit⟩, hwidth⟩, rfl⟩

-- The cells that a sprite reaches: its set bits, as far as they lie inside the
-- display.
theorem mem_spriteCells {sprite : List UInt8} {cell : Nat × Nat} :
    cell ∈ d.spriteCells x y sprite ↔
      ∃ row byte column, sprite[row]? = some byte ∧ y + row < d.height ∧ column < 8 ∧
        byte.toNat.testBit (7 - column) ∧ x + column < d.width ∧
        cell = (x + column, y + row) := by
  rw [spriteCells_eq]
  simp only [List.mem_flatMap, Prod.exists, List.mem_zipIdx_iff_getElem?, List.getElem?_take,
    mem_rowCells]
  constructor
  · rintro ⟨byte, row, hbyte, column, hlt, hbit, hwidth, rfl⟩
    split at hbyte
    · rename_i hrow
      exact ⟨row, byte, column, hbyte, by omega, hlt, hbit, hwidth, rfl⟩
    · contradiction
  · rintro ⟨row, byte, column, hbyte, hrow, hlt, hbit, hwidth, rfl⟩
    exact ⟨byte, row, by rwa [if_pos (by omega)], column, hlt, hbit, hwidth, rfl⟩

theorem nodup_rowCells (byte : UInt8) (row : Nat) : (d.rowCells x y byte row).Nodup := by
  refine List.Nodup.map ?_ ((List.nodup_range.filter _).filter _)
  intro column column' h
  have := congrArg Prod.fst h
  simp only at this
  omega

theorem nodup_flatMap_rowCells (bytes : List UInt8) (row : Nat) :
    ((bytes.zipIdx row).flatMap fun (byte, row) => d.rowCells x y byte row).Nodup := by
  induction bytes generalizing row with
  | nil => exact List.nodup_nil
  | cons byte rest ih =>
    rw [List.zipIdx_cons, List.flatMap_cons]
    refine List.nodup_append.mpr ⟨d.nodup_rowCells x y byte row, ih (row + 1), ?_⟩
    rintro cell hcell other hother rfl
    obtain ⟨column, -, -, -, rfl⟩ := (d.mem_rowCells x y).mp hcell
    obtain ⟨⟨byte', row'⟩, hlater, hcell'⟩ := List.mem_flatMap.mp hother
    obtain ⟨column', -, -, -, heq⟩ := (d.mem_rowCells x y).mp hcell'
    have hrow : row + 1 ≤ row' := List.le_snd_of_mem_zipIdx hlater
    have := congrArg Prod.snd heq
    simp only at this
    omega

theorem nodup_spriteCells (sprite : List UInt8) : (d.spriteCells x y sprite).Nodup :=
  d.nodup_flatMap_rowCells x y _ 0

end Cells

theorem spriteCells_inside {d : Display} {x y : Nat} {sprite : List UInt8} {cell : Nat × Nat}
    (hcell : cell ∈ d.spriteCells x y sprite) : cell.1 < d.width ∧ cell.2 < d.height := by
  obtain ⟨row, byte, column, -, hrow, -, -, hcolumn, rfl⟩ := (d.mem_spriteCells x y).mp hcell
  exact ⟨hcolumn, hrow⟩

end Chip8.Display
