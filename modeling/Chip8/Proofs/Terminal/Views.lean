import Chip8.Proofs.Checked.Pixels
import Chip8.Proofs.Terminal.Shown

namespace Chip8.Display

def pixelAt? (frame : Frame) (x y : Nat) : Option Bool := frame[y]?.bind fun row => row[x]?

-- A frame that has as many rows as the display, each as wide as the display, and
-- holds its pixels. Every pixel can be read, and is off outside.
structure MatchesPixels (frame : Frame) (d : Display) : Prop where
  size_eq : frame.size = d.height
  size_row : ∀ row ∈ frame, row.size = d.width
  pixel_eq : ∀ x y, x < d.width → y < d.height → pixelAt? frame x y = some (d.pixel x y)
  outside_eq : ∀ x y, ¬ (x < d.width ∧ y < d.height) → d.pixel x y = false
  read_eq : ∀ x y, d.pixelChecked x y = pure (d.pixel x y)

theorem matchesPixels {d : Display} (hpos : 0 < d.width)
    (hsmall : d.width * d.height < wordLimit) : MatchesPixels d.rows d := by
  have hrows := d.rows_eq hpos
  refine ⟨?_, ?_, ?_, ?_, pixelChecked_eq hsmall⟩
  · simp [hrows]
  · intro row hrow
    rw [hrows] at hrow
    obtain ⟨y, -, rfl⟩ := Array.mem_map.mp hrow
    simp
  · intro x y hx hy
    simp [pixelAt?, hrows, hx, hy]
  · intro x y houtside
    exact pixel_of_outside houtside

-- Both views of the displays of a width and a height, of one that is drawn on and
-- cleared by itself and of one that a session has copied its frame from.
structure ViewsAgree (width height : Nat) : Prop where
  drawn : ∀ d, new width height = .ok d → ∀ strokes,
    let drawn := d.stroked strokes
    d.strokedChecked strokes = pure drawn ∧ (drawn.width = width ∧ drawn.height = height) ∧
      MatchesPixels drawn.rows drawn
  copied : ∀ {c unseeded font program e}, Emulator.new c unseeded font program = .ok e →
    c.width = width → c.height = height → ∀ events,
      let d := Session.lastTaken e events
      (d.width = width ∧ d.height = height) ∧
        MatchesPixels ((Session.start e).after events).frame d

-- Rows and single pixels agree on every display that has columns, whatever has been
-- drawn on it.
theorem rows_match_pixels {width height : Nat} (hwidth : 0 < width) : ViewsAgree width height := by
  refine ⟨?_, ?_⟩
  · intro d hnew strokes
    have hsmall := lt_wordLimit_of_lt_allocationLimit (new_eq_ok_iff.mp hnew).1
    obtain ⟨hrun, hcolumns, hrows, -⟩ := (sized_of_new hnew).stroked hsmall strokes
    refine ⟨hrun, ⟨hcolumns, hrows⟩, matchesPixels (by rwa [hcolumns]) ?_⟩
    rwa [hcolumns, hrows]
  · rintro c unseeded font program e hnew rfl rfl events
    obtain ⟨-, hfits, -⟩ := Emulator.new_eq_ok_iff.mp hnew
    have hsmall := lt_wordLimit_of_lt_allocationLimit hfits.display
    obtain ⟨hcolumns, hrows, -⟩ := Session.sized_lastTaken hnew events
    have hframe : ((Session.start e).after events).frame = (Session.lastTaken e events).rows :=
      Session.frame_after rfl events
    rw [hframe]
    refine ⟨⟨hcolumns, hrows⟩, matchesPixels (by rwa [hcolumns]) ?_⟩
    rwa [hcolumns, hrows]

def threeByTwo : Config where
  memorySize := 4
  programAddress := 0
  fontAddress := 0
  width := 3
  height := 2

-- Draws its own first two bytes.
def selfPortrait : List UInt8 := [0xD0, 0x02]

def portraitEmulator : Emulator := .built threeByTwo (Vector.replicate 8 0) [] selfPortrait

-- The last sprite but one wraps to the lower right and is cut there.
def overlappingStrokes : List Stroke :=
  [.draw 0 0 [0xFF], .clear, .draw 0 0 [0xE0], .draw 4 3 [0xC0, 0xFF], .draw 1 0 [0x80]]

theorem rows_match_pixels_threeByTwo :
    new 3 2 = .ok (blank 3 2) ∧
      (let d := (blank 3 2).stroked overlappingStrokes
      d.rows = #[#[true, false, true], #[false, true, true]] ∧ MatchesPixels d.rows d) ∧
      Emulator.new threeByTwo (Vector.replicate 8 0) [] selfPortrait = .ok portraitEmulator ∧
      let events := [.update Timer.second, .takeFrame]
      let frame := ((Session.start portraitEmulator).after events).frame
      frame = #[#[true, true, false], #[false, false, false]] ∧
        MatchesPixels frame (Session.lastTaken portraitEmulator events) := by
  have hmade : new 3 2 = .ok (blank 3 2) := new_of_lt (by decide)
  have hnew : Emulator.new threeByTwo (Vector.replicate 8 0) [] selfPortrait =
      .ok portraitEmulator :=
    Emulator.new_eq_ok_iff.mpr ⟨by decide, by decide, by decide, by decide, rfl⟩
  have hviews : ViewsAgree 3 2 := rows_match_pixels (by decide)
  obtain ⟨-, -, hdrawn⟩ := hviews.drawn _ hmade overlappingStrokes
  obtain ⟨-, hcopied⟩ := hviews.copied hnew rfl rfl [.update Timer.second, .takeFrame]
  exact ⟨hmade, ⟨by decide +kernel, hdrawn⟩, hnew, by decide +kernel, hcopied⟩

end Chip8.Display
