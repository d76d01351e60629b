import Chip8.Proofs.Checked.Operation
import Chip8.Proofs.Machine.Raster

namespace Chip8.Display

-- Turns over the pixel in a slot, and gives it as it was.
def flipChecked (d : Display) (slot : Nat) : Checked (Bool × Display) :=
  if h : slot < d.pixels.size then
    pure (d.pixels[slot],
      { d with
        pixels := d.pixels.set slot (!d.pixels[slot]) h
        size_eq := (Array.size_set h).trans d.size_eq })
  else throw .indexOutOfRange

-- Toggles the pixel `column` places right of `x` and `row` places below `y`, and
-- notes whether that turned it off.
def toggleChecked (x y row : Nat) (state : Bool × Display) (column : Nat) :
    Checked (Bool × Display) := do
  let line ← Checked.add wordLimit y row
  let start ← Checked.mul wordLimit line state.2.width
  let corner ← Checked.add wordLimit start x
  let slot ← Checked.add wordLimit corner column
  let (lit, flipped) ← flipChecked state.2 slot
  pure (state.1 || lit, flipped)

def drawColumnChecked (x y row : Nat) (byte : UInt8) (state : Bool × Display) (column : Nat) :
    Checked (Bool × Display) := do
  if ← Checked.bit byte column then toggleChecked x y row state column else pure state

def drawRowChecked (x y columns : Nat) (state : Bool × Display) (line : UInt8 × Nat) :
    Checked (Bool × Display) :=
  (List.range columns).foldlM (drawColumnChecked x y line.2 line.1) state

def drawChecked (d : Display) (x y : Nat) (sprite : List UInt8) : Checked (Bool × Display) := do
  if d.pixels.isEmpty then
    return (false, d)
  let x ← Checked.rem x d.width
  let y ← Checked.rem y d.height
  let rows ← Checked.sub d.height y
  let columns ← Checked.sub d.width x
  let (hit, drawn) ←
    (sprite.take rows).zipIdx.foldlM (drawRowChecked x y (min 8 columns)) (false, d)
  return (hit, { drawn with changed := true })

-- The collision so far and the display so far, with one more cell toggled.
def scan (state : Bool × Display) (cell : Nat × Nat) : Bool × Display :=
  (state.1 || state.2.pixel cell.1 cell.2, state.2.toggle cell)

-- A scan of cells that are all different meets every pixel as it was at first.
theorem foldl_scan {d : Display} {cells : List (Nat × Nat)}
    (hinside : ∀ cell ∈ cells, cell.1 < d.width ∧ cell.2 < d.height) (hnodup : cells.Nodup)
    (hit : Bool) :
    cells.foldl scan (hit, d) =
      (hit || cells.any fun (x, y) => d.pixel x y, cells.foldl toggle d) := by
  induction cells generalizing hit d with
  | nil => simp
  | cons cell rest ih =>
    obtain ⟨hfresh, hrest⟩ := List.nodup_cons.mp hnodup
    have hcell := hinside cell (List.mem_cons_self ..)
    have hlater : ∀ other ∈ rest, other.1 < d.width ∧ other.2 < d.height := fun other hother =>
      hinside other (List.mem_cons_of_mem _ hother)
    have hsame : (rest.any fun (x, y) => (d.toggle cell).pixel x y) =
        rest.any fun (x, y) => d.pixel x y := by
      rw [Bool.eq_iff_iff, List.any_eq_true, List.any_eq_true]
      refine exists_congr fun other => and_congr_right fun hother => ?_
      have hne : other ≠ cell := fun heq => hfresh (heq ▸ hother)
      have hpixel := pixel_toggle (y := cell.2) hcell.1 (hlater other hother).1
        (hlater other hother).2
      rw [if_neg hne] at hpixel
      exact Bool.eq_iff_iff.mp hpixel
    rw [List.foldl_cons, scan, ih (d := d.toggle cell) hlater hrest, hsame, List.any_cons,
      List.foldl_cons, Bool.or_assoc]

theorem flipChecked_eq {d : Display} {x y : Nat} (hx : x < d.width) (hy : y < d.height) :
    d.flipChecked (d.slot x y) = pure (d.pixel x y, d.toggle (x, y)) := by
  have hslot := slot_lt hx hy
  obtain ⟨_, hlit⟩ := Array.getElem?_eq_some_iff.mp (getElem?_slot hx hy)
  have hset : d.pixels.set (d.slot x y) (!d.pixel x y) hslot =
      d.pixels.modify (d.slot x y) not := by
    apply Array.ext_getElem?
    intro i
    rw [Array.getElem?_set, Array.getElem?_modify]
    split
    · rename_i hi
      rw [← hi, getElem?_slot hx hy]
      rfl
    · rfl
  rw [flipChecked, dif_pos hslot]
  simp only [hlit]
  exact congrArg (fun flipped => pure (d.pixel x y, flipped)) (Display.ext rfl rfl hset rfl)

theorem toggleChecked_eq {d : Display} (hsmall : d.width * d.height < wordLimit) (hit : Bool)
    {x y row column : Nat} (hx : x + column < d.width) (hy : y + row < d.height) :
    toggleChecked x y row (hit, d) column = pure (scan (hit, d) (x + column, y + row)) := by
  have hlt := row_slot_lt hx hy
  have hheight : d.height ≤ d.width * d.height := Nat.le_mul_of_pos_left d.height (by omega)
  have hslot : (y + row) * d.width + x + column = d.slot (x + column) (y + row) :=
    Nat.add_assoc _ _ _
  simp only [toggleChecked]
  rw [Checked.add_eq (by omega), pure_bind, Checked.mul_eq (by omega), pure_bind,
    Checked.add_eq (by omega), pure_bind, Checked.add_eq (by omega), pure_bind, hslot,
    flipChecked_eq hx hy, pure_bind]
  rfl

theorem filter_range_lt (n x limit : Nat) :
    (List.range n).filter (fun column => x + column < limit) = List.range (min n (limit - x)) := by
  induction n with
  | zero => simp
  | succ n ih =>
    rw [List.range_succ, List.filter_append, ih]
    by_cases h : x + n < limit
    · have hmin : min (n + 1) (limit - x) = min n (limit - x) + 1 := by omega
      have hn : min n (limit - x) = n := by omega
      rw [hmin, hn, List.range_succ]
      simp [h]
    · have hmin : min (n + 1) (limit - x) = min n (limit - x) := by omega
      rw [hmin]
      simp [h]

variable {width height : Nat}

theorem drawRowChecked_eq (hsmall : width * height < wordLimit) {d : Display}
    (h : d.Sized width height) {state : Bool × Display} (hstate : state.2.Sized width height)
    {x y : Nat} {byte : UInt8} {row : Nat} (hrow : y + row < height) :
    drawRowChecked x y (min 8 (width - x)) state (byte, row) =
        pure ((d.rowCells x y byte row).foldl scan state) ∧
      ((d.rowCells x y byte row).foldl scan state).2.Sized width height := by
  have hcells : (d.rowCells x y byte row).foldl scan state =
      (List.range (min 8 (width - x))).foldl (fun state column =>
        if byte.toNat.testBit (7 - column) then scan state (x + column, y + row) else state)
        state := by
    rw [rowCells, List.foldl_map, h.width_eq, setColumns, List.filter_comm, filter_range_lt,
      List.foldl_filter]
  rw [hcells]
  refine Checked.foldlM_eq (P := fun state : Bool × Display => state.2.Sized width height) ?_ hstate
  intro column hcolumn state hsized
  obtain ⟨hwidth, hheight, -⟩ := hsized
  have hlt := List.mem_range.mp hcolumn
  unfold drawColumnChecked
  rw [Checked.bit_eq (by omega), pure_bind]
  split
  · rw [toggleChecked_eq (by rwa [hwidth, hheight]) state.1 (by omega) (by omega)]
    exact ⟨rfl, sized_of_eq hwidth hheight⟩
  · exact ⟨rfl, sized_of_eq hwidth hheight⟩

theorem drawChecked_eq {d : Display} (hsmall : d.width * d.height < wordLimit)
    (x y : Nat) (sprite : List UInt8) : d.drawChecked x y sprite = pure (d.draw x y sprite) := by
  unfold drawChecked draw
  split
  · rfl
  rename_i hempty
  rw [Array.isEmpty_iff_size_eq_zero, d.size_eq, Nat.mul_eq_zero, not_or] at hempty
  obtain ⟨hwidth, hheight⟩ := hempty
  have hx : x % d.width < d.width := Nat.mod_lt x (by omega)
  have hy : y % d.height < d.height := Nat.mod_lt y (by omega)
  have hscan : (sprite.take (d.height - y % d.height)).zipIdx.foldlM
      (drawRowChecked (x % d.width) (y % d.height) (min 8 (d.width - x % d.width))) (false, d) =
        pure ((d.spriteCells (x % d.width) (y % d.height) sprite).foldl scan (false, d)) := by
    rw [spriteCells_eq, List.foldl_flatMap]
    refine And.left (Checked.foldlM_eq
      (P := fun state : Bool × Display => state.2.Sized d.width d.height) ?_
      (sized_of_eq rfl rfl))
    rintro ⟨byte, row⟩ hline state hsized
    have hrow : row < d.height - y % d.height := by
      have := List.snd_lt_of_mem_zipIdx hline
      rw [List.length_take] at this
      omega
    exact drawRowChecked_eq hsmall (sized_of_eq rfl rfl) hsized (by omega)
  have hinside : ∀ cell ∈ d.spriteCells (x % d.width) (y % d.height) sprite,
      cell.1 < d.width ∧ cell.2 < d.height := fun cell hcell => spriteCells_inside hcell
  rw [Checked.rem_eq hwidth, pure_bind, Checked.rem_eq hheight, pure_bind,
    Checked.sub_eq (by omega), pure_bind, Checked.sub_eq (by omega), pure_bind, hscan, pure_bind,
    foldl_scan hinside (d.nodup_spriteCells _ _ _), Bool.false_or]

inductive Stroke where
  | clear
  | draw (x y : Nat) (sprite : List UInt8)
  deriving DecidableEq, Repr

def stroke (d : Display) : Stroke → Display
  | .clear => d.clear
  | .draw x y sprite => (d.draw x y sprite).2

def strokeChecked (d : Display) : Stroke → Checked Display
  | .clear => pure d.clear
  | .draw x y sprite => do
    let (_, drawn) ← d.drawChecked x y sprite
    return drawn

def stroked (d : Display) (strokes : List Stroke) : Display := strokes.foldl stroke d

def strokedChecked (d : Display) (strokes : List Stroke) : Checked Display :=
  strokes.foldlM strokeChecked d

section Strokes

variable {d : Display}

theorem strokeChecked_eq (hsmall : d.width * d.height < wordLimit) (stroke : Stroke) :
    d.strokeChecked stroke = pure (d.stroke stroke) := by
  cases stroke with
  | clear => rfl
  | draw x y sprite =>
    rw [strokeChecked, drawChecked_eq hsmall, pure_bind]
    rfl

theorem Sized.stroke (h : d.Sized width height) (stroke : Stroke) :
    (d.stroke stroke).Sized width height := by
  cases stroke with
  | clear => exact h.clear
  | draw x y sprite => exact h.draw x y sprite

theorem Sized.stroked (h : d.Sized width height) (hsmall : width * height < wordLimit)
    (strokes : List Stroke) :
    d.strokedChecked strokes = pure (d.stroked strokes) ∧
      (d.stroked strokes).Sized width height := by
  refine Checked.foldlM_eq (P := fun d : Display => d.Sized width height) ?_ h
  intro stroke _ d h
  refine ⟨strokeChecked_eq ?_ stroke, h.stroke stroke⟩
  rwa [h.width_eq, h.height_eq]

end Strokes

end Chip8.Display
