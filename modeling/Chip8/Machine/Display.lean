import Chip8.Overflow

namespace Chip8

-- The pixels are stored row by row, one for each column of each row.
@[ext] structure Display where
  width : Nat
  height : Nat
  pixels : Array Bool
  -- Set by whatever may change a pixel, until a frame is taken.
  changed : Bool
  size_eq : pixels.size = width * height
  deriving DecidableEq

namespace Display

def blank (width height : Nat) : Display where
  width
  height
  pixels := Array.replicate (width * height) false
  changed := false
  size_eq := Array.size_replicate

def new (width height : Nat) : Except Overflow Display := do
  checkCells width height
  let pixels ← allocate 1 (width * height) false
  return {
    width
    height
    pixels := pixels.toArray
    changed := false
    size_eq := pixels.size_toArray }

def slot (d : Display) (x y : Nat) : Nat := y * d.width + x

-- Off outside the display.
def pixel (d : Display) (x y : Nat) : Bool :=
  if x < d.width ∧ y < d.height then d.pixels[d.slot x y]?.getD false else false

def rows (d : Display) : Array (Array Bool) :=
  let width := max d.width 1
  (Array.range ((d.pixels.size + width - 1) / width)).map fun y =>
    d.pixels.extract (y * width) (y * width + width)

def clear (d : Display) : Display :=
  { d with
    pixels := Array.replicate d.pixels.size false
    changed := true
    size_eq := Array.size_replicate.trans d.size_eq }

-- The columns that a byte of a sprite sets. The leftmost is the highest bit.
def setColumns (byte : UInt8) : List Nat :=
  (List.range 8).filter fun column => byte.toNat.testBit (7 - column)

-- The cells, column and row, that a sprite with its corner at column `x` of row
-- `y` reaches.
def spriteCells (d : Display) (x y : Nat) (sprite : List UInt8) : List (Nat × Nat) :=
  (sprite.take (d.height - y)).zipIdx.flatMap fun (byte, row) =>
    ((setColumns byte).filter fun column => x + column < d.width).map fun column =>
      (x + column, y + row)

def toggle (d : Display) (cell : Nat × Nat) : Display :=
  { d with
    pixels := d.pixels.modify (d.slot cell.1 cell.2) not
    size_eq := Array.size_modify.trans d.size_eq }

-- Draws a sprite, one byte per row, and says whether a lit pixel was turned off.
-- The corner wraps around the display, and the sprite is cut at the right and the
-- bottom edge.
def draw (d : Display) (x y : Nat) (sprite : List UInt8) : Bool × Display :=
  if d.pixels.isEmpty then (false, d)
  else
    let cells := d.spriteCells (x % d.width) (y % d.height) sprite
    let hit := cells.any fun (x, y) => d.pixel x y
    (hit, { cells.foldl toggle d with changed := true })

def settled (d : Display) : Display := { d with changed := false }

theorem new_of_lt {width height : Nat} (h : width * height < allocationLimit) :
    new width height = .ok (blank width height) := by
  rw [new, checkCells_of_lt (lt_wordLimit_of_lt_allocationLimit h)]
  show (allocate 1 (width * height) false >>= _) = _
  rw [allocate_of_lt false (by rwa [Nat.one_mul])]
  rfl

theorem new_of_wordLimit_le {width height : Nat} (h : wordLimit ≤ width * height) :
    new width height = .error .multiplication := by
  rw [new, checkCells_of_le h]
  rfl

theorem new_of_allocationLimit_le {width height : Nat} (h : allocationLimit ≤ width * height)
    (hword : width * height < wordLimit) : new width height = .error .capacity := by
  rw [new, checkCells_of_lt hword]
  show (allocate 1 (width * height) false >>= _) = _
  rw [allocate_of_le false (by rwa [Nat.one_mul])]
  rfl

theorem new_eq_ok_iff {width height : Nat} {d : Display} :
    new width height = .ok d ↔ width * height < allocationLimit ∧ d = blank width height := by
  constructor
  · intro h
    by_cases hfits : width * height < allocationLimit
    · rw [new_of_lt hfits] at h
      exact ⟨hfits, (Except.ok.inj h).symm⟩
    · by_cases hword : width * height < wordLimit
      · rw [new_of_allocationLimit_le (Nat.not_lt.mp hfits) hword] at h
        contradiction
      · rw [new_of_wordLimit_le (Nat.not_lt.mp hword)] at h
        contradiction
  · rintro ⟨hfits, rfl⟩
    exact new_of_lt hfits

end Display

end Chip8
