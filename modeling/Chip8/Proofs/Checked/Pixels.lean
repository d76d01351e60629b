import Chip8.Proofs.Checked.Drawing

namespace Chip8.Display

def pixelChecked (d : Display) (x y : Nat) : Checked Bool := do
  if d.width ≤ x ∨ d.height ≤ y then
    return false
  let start ← Checked.mul wordLimit y d.width
  let slot ← Checked.add wordLimit start x
  Checked.get d.pixels slot

-- Each pixel has a slot, which is its place in row order and no other pixel's.
-- No pixel can be read and no sprite drawn that an index would miss.
structure ServesPixels (d : Display) : Prop where
  slot_eq : ∀ x y, x < d.width → y < d.height → d.slot x y = y * d.width + x
  slot_lt : ∀ x y, x < d.width → y < d.height → d.slot x y < d.pixels.size
  slot_inj : ∀ x y x' y', x < d.width → y < d.height → x' < d.width → y' < d.height →
    d.slot x y = d.slot x' y' → x = x' ∧ y = y'
  read_eq : ∀ x y, d.pixelChecked x y = pure (d.pixel x y)
  draw_eq : ∀ x y sprite, d.drawChecked x y sprite = pure (d.draw x y sprite)

section Slots

variable {d : Display}

theorem pixelChecked_eq (hsmall : d.width * d.height < wordLimit) (x y : Nat) :
    d.pixelChecked x y = pure (d.pixel x y) := by
  unfold pixelChecked
  by_cases hinside : x < d.width ∧ y < d.height
  · obtain ⟨hx, hy⟩ := hinside
    have hlt := row_slot_lt hx hy
    have hpixel : d.pixels[y * d.width + x]? = some (d.pixel x y) := getElem?_slot hx hy
    rw [if_neg (by omega), Checked.mul_eq (by omega), pure_bind, Checked.add_eq (by omega),
      pure_bind, Checked.get_eq hpixel]
  · rw [if_pos (by omega), pixel_of_outside hinside]

theorem servesPixels (hsmall : d.width * d.height < wordLimit) : d.ServesPixels where
  slot_eq _ _ _ _ := rfl
  slot_lt _ _ hx hy := slot_lt hx hy
  slot_inj _ _ _ _ hx _ hx' _ h := slot_inj hx hx' h
  read_eq := pixelChecked_eq hsmall
  draw_eq := drawChecked_eq hsmall

theorem exists_new_iff {width height : Nat} :
    (∃ d, new width height = .ok d) ↔ width * height < allocationLimit := by
  simp only [new_eq_ok_iff, exists_and_left, exists_eq, and_true]

end Slots

-- A display is made exactly if its pixels fit one allocation; and whatever is drawn
-- on it then, it has a slot for every pixel and is safe to read and to draw on.
theorem displays_serve_iff_allocated (width height : Nat) :
    ((∃ d, new width height = .ok d) ↔ width * height < allocationLimit) ∧
    ∀ d strokes, new width height = .ok d → (d.stroked strokes).ServesPixels := by
  refine ⟨exists_new_iff, ?_⟩
  intro d strokes hnew
  have hsmall := lt_wordLimit_of_lt_allocationLimit (new_eq_ok_iff.mp hnew).1
  obtain ⟨-, hwidth, hheight, -⟩ := (sized_of_new hnew).stroked hsmall strokes
  exact servesPixels (by rwa [hwidth, hheight])

-- The longest row that one allocation can hold.
def longestRow : Config where
  width := 9223372036854775807
  height := 1

theorem displays_serve_iff_allocated_longestRow :
    longestRow.validate = .ok () ∧
      ∃ d, new longestRow.width longestRow.height = .ok d ∧
        (d.stroked [.draw 9223372036854775806 0 [0xFF], .clear]).ServesPixels := by
  obtain ⟨hmade, hserves⟩ := displays_serve_iff_allocated longestRow.width longestRow.height
  obtain ⟨d, hnew⟩ := hmade.mpr (by decide)
  exact ⟨by decide, d, hnew, hserves d _ hnew⟩

def wordSquare : Config where
  width := 0x100000000
  height := 0x100000000

theorem square_display_not_made :
    wordSquare.validate = .ok () ∧
      new wordSquare.width wordSquare.height = .error .multiplication := by
  have hlarge : wordLimit ≤ wordSquare.width * wordSquare.height := by decide
  exact ⟨by decide, new_of_wordLimit_le hlarge⟩

end Chip8.Display
