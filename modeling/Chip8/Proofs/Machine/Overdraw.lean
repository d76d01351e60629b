import Mathlib.Data.List.Perm.Basic
import Chip8.Proofs.Machine.Sprite

namespace Chip8.Display

structure Placement where
  x : Nat
  y : Nat
  sprite : List UInt8
  deriving DecidableEq, Repr

def drawAt (d : Display) (p : Placement) : Bool × Display := d.draw p.x p.y p.sprite

def drawAll (d : Display) (placements : List Placement) : Display :=
  placements.foldl (fun d p => (d.drawAt p).2) d

def Placement.cells (p : Placement) (d : Display) : List (Nat × Nat) :=
  d.spriteCells (p.x % d.width) (p.y % d.height) p.sprite

-- The sprite has a set bit that falls inside the display.
def Placement.Visible (p : Placement) (d : Display) : Prop :=
  ∃ row byte column, p.sprite[row]? = some byte ∧ column < 8 ∧
    byte.toNat.testBit (7 - column) = true ∧ p.x % d.width + column < d.width ∧
    p.y % d.height + row < d.height

section Order

variable {d : Display}

def flip (d : Display) (pixels : Array Bool) (cell : Nat × Nat) : Array Bool :=
  pixels.modify (d.slot cell.1 cell.2) not

theorem getElem?_flip (pixels : Array Bool) (cell : Nat × Nat) (i : Nat) :
    (d.flip pixels cell)[i]? =
      if d.slot cell.1 cell.2 = i then pixels[i]?.map not else pixels[i]? :=
  Array.getElem?_modify

instance : RightCommutative d.flip where
  right_comm pixels cell other := by
    apply Array.ext_getElem?
    intro i
    simp only [getElem?_flip]
    by_cases hcell : d.slot cell.1 cell.2 = i
    · by_cases hother : d.slot other.1 other.2 = i
      · simp [hcell, hother]
      · simp [hcell, hother]
    · simp [hcell]

theorem flip_flip (pixels : Array Bool) (cell : Nat × Nat) :
    d.flip (d.flip pixels cell) cell = pixels := by
  apply Array.ext_getElem?
  intro i
  simp only [getElem?_flip]
  by_cases hcell : d.slot cell.1 cell.2 = i
  · simp [hcell, Function.comp_def]
  · simp [hcell]

theorem pixels_foldl_toggle (cells : List (Nat × Nat)) :
    (cells.foldl Display.toggle d).pixels = cells.foldl d.flip d.pixels := by
  induction cells generalizing d with
  | nil => rfl
  | cons cell rest ih => exact ih (d := d.toggle cell)

theorem cells_of_isEmpty (hempty : d.pixels.isEmpty) (p : Placement) : p.cells d = [] := by
  rw [Array.isEmpty_iff_size_eq_zero, d.size_eq, Nat.mul_eq_zero] at hempty
  apply List.eq_nil_iff_forall_not_mem.mpr
  intro cell hcell
  have hinside := spriteCells_inside hcell
  omega

theorem pixels_drawAt (p : Placement) :
    (d.drawAt p).2.pixels = (p.cells d).foldl d.flip d.pixels := by
  rw [drawAt]
  by_cases hempty : d.pixels.isEmpty
  · rw [draw_of_isEmpty hempty, cells_of_isEmpty hempty]
    rfl
  · rw [draw, if_neg hempty]
    exact pixels_foldl_toggle (p.cells d)

theorem cells_drawAt (p q : Placement) : q.cells (d.drawAt p).2 = q.cells d := by
  obtain ⟨hwidth, hheight⟩ := d.shape_draw p.x p.y p.sprite
  simp only [drawAt, Placement.cells, spriteCells, hwidth, hheight]

theorem flip_drawAt (p : Placement) : (d.drawAt p).2.flip = d.flip := by
  obtain ⟨hwidth, -⟩ := d.shape_draw p.x p.y p.sprite
  funext pixels cell
  simp only [drawAt, flip, slot, hwidth]

theorem pixels_drawAll (placements : List Placement) :
    (d.drawAll placements).pixels =
      (placements.flatMap fun p => p.cells d).foldl d.flip d.pixels := by
  induction placements generalizing d with
  | nil => rfl
  | cons p rest ih =>
    have hrest := ih (d := (d.drawAt p).2)
    simp only [cells_drawAt, flip_drawAt, pixels_drawAt] at hrest
    rw [List.flatMap_cons, List.foldl_append]
    exact hrest

theorem pixels_drawAll_of_perm {first second : List Placement} (h : first.Perm second) :
    (d.drawAll first).pixels = (d.drawAll second).pixels := by
  rw [pixels_drawAll, pixels_drawAll]
  exact (h.flatMap_right _).foldl_eq d.pixels

theorem foldl_flip_twice (cells : List (Nat × Nat)) (pixels : Array Bool) :
    (cells ++ cells).foldl d.flip pixels = pixels := by
  induction cells generalizing pixels with
  | nil => rfl
  | cons cell rest ih =>
    have hpair : (cell :: rest ++ cell :: rest).Perm (cell :: cell :: (rest ++ rest)) :=
      List.perm_middle.cons cell
    rw [hpair.foldl_eq, List.foldl_cons, List.foldl_cons, flip_flip, ih]

theorem pixels_drawAll_twice (p : Placement) : (d.drawAll [p, p]).pixels = d.pixels := by
  rw [pixels_drawAll]
  simpa using foldl_flip_twice (p.cells d) d.pixels

end Order

section Collisions

variable {d : Display} {p : Placement}

theorem visible_iff : p.Visible d ↔ ∃ px py, (px, py) ∈ p.cells d := by
  unfold Placement.Visible Placement.cells
  constructor
  · rintro ⟨row, byte, column, hbyte, hcolumn, hbit, hwidth, hheight⟩
    exact ⟨_, _, (d.mem_spriteCells _ _).mpr
      ⟨row, byte, column, hbyte, hheight, hcolumn, hbit, hwidth, rfl⟩⟩
  · rintro ⟨px, py, hcell⟩
    obtain ⟨row, byte, column, hbyte, hheight, hcolumn, hbit, hwidth, -⟩ :=
      (d.mem_spriteCells _ _).mp hcell
    exact ⟨row, byte, column, hbyte, hcolumn, hbit, hwidth, hheight⟩

theorem hit_drawAt_iff :
    (d.drawAt p).1 = true ↔ ∃ px py, (px, py) ∈ p.cells d ∧ d.pixel px py = true :=
  hit_draw_iff

-- What the collisions of two equal draws, one right after the other, tell of the
-- sprite.
structure CollisionsTell (d : Display) (p : Placement) : Prop where
  double : (d.drawAt p).1 = true ∨ ((d.drawAt p).2.drawAt p).1 = true ↔ p.Visible d
  cleared_first : (d.clear.drawAt p).1 = false
  cleared_second : ((d.clear.drawAt p).2.drawAt p).1 = true ↔ p.Visible d

-- The second draw finds lit what the first one has found dark.
theorem hit_again_iff (hempty : ¬ d.pixels.isEmpty) :
    ((d.drawAt p).2.drawAt p).1 = true ↔
      ∃ px py, (px, py) ∈ p.cells d ∧ d.pixel px py = false := by
  rw [hit_drawAt_iff, cells_drawAt]
  refine exists_congr fun px => exists_congr fun py => and_congr_right fun hcell => ?_
  have hpixel : (d.drawAt p).2.pixel px py = (d.pixel px py ^^ decide ((px, py) ∈ p.cells d)) :=
    pixel_draw hempty p.x p.y p.sprite px py
  simp [hpixel, hcell]

theorem collisionsTell (hwidth : 0 < d.width) (hheight : 0 < d.height) (p : Placement) :
    d.CollisionsTell p := by
  have hdark (px py : Nat) : d.clear.pixel px py = false := pixel_clear px py
  refine ⟨?_, ?_, ?_⟩
  · rw [hit_again_iff (not_isEmpty hwidth hheight), hit_drawAt_iff, visible_iff]
    constructor
    · rintro (⟨px, py, hcell, -⟩ | ⟨px, py, hcell, -⟩)
      · exact ⟨px, py, hcell⟩
      · exact ⟨px, py, hcell⟩
    · rintro ⟨px, py, hcell⟩
      cases hlit : d.pixel px py with
      | true => exact .inl ⟨px, py, hcell, hlit⟩
      | false => exact .inr ⟨px, py, hcell, hlit⟩
  · rw [← Bool.not_eq_true, hit_drawAt_iff]
    simp [hdark]
  · rw [hit_again_iff (d := d.clear) (not_isEmpty hwidth hheight), visible_iff]
    simp only [hdark, and_true]
    rfl

end Collisions

-- The order of draws makes no difference to the pixels, two equal draws cancel, and
-- their collisions tell whether the sprite reaches the display.
theorem draws_commute_and_cancel {d : Display} (hwidth : 0 < d.width) (hheight : 0 < d.height) :
    (∀ first second : List Placement, first.Perm second →
      (d.drawAll first).pixels = (d.drawAll second).pixels) ∧
    ∀ p, (d.drawAll [p, p]).pixels = d.pixels ∧ d.CollisionsTell p := by
  refine ⟨fun _ _ hperm => pixels_drawAll_of_perm hperm, ?_⟩
  intro p
  exact ⟨pixels_drawAll_twice p, collisionsTell hwidth hheight p⟩

-- Three columns and two rows. The first sprite is cut at both edges and overlaps
-- the second one.
def cutSprite : Placement := ⟨4, 2, [0xE0, 0x80, 0xFF]⟩

def rowSprite : Placement := ⟨0, 0, [0xE0]⟩

theorem draws_commute_and_cancel_overlap :
    (0 < (blank 3 2).width ∧ 0 < (blank 3 2).height) ∧
      ((blank 3 2).drawAll [cutSprite, rowSprite]).pixels =
        ((blank 3 2).drawAll [rowSprite, cutSprite]).pixels ∧
      ((blank 3 2).drawAll [rowSprite, cutSprite]).pixels =
        #[true, false, false, false, true, false] ∧
      ((blank 3 2).drawAll [cutSprite, cutSprite]).pixels = (blank 3 2).pixels ∧
      cutSprite.Visible (blank 3 2) ∧
      (((blank 3 2).clear.drawAt cutSprite).2.drawAt cutSprite).1 = true := by
  have hwidth : 0 < (blank 3 2).width := by decide
  have hheight : 0 < (blank 3 2).height := by decide
  obtain ⟨horder, hdouble⟩ := draws_commute_and_cancel hwidth hheight
  obtain ⟨hcancel, htell⟩ := hdouble cutSprite
  have hvisible : cutSprite.Visible (blank 3 2) :=
    ⟨0, 0xE0, 0, rfl, by decide, by decide, by decide, by decide⟩
  have hswap : [cutSprite, rowSprite].Perm [rowSprite, cutSprite] := .swap _ _ _
  refine ⟨⟨hwidth, hheight⟩, horder _ _ hswap, ?_, hcancel, hvisible, ?_⟩
  · decide
  · exact htell.cleared_second.mpr hvisible

end Chip8.Display
