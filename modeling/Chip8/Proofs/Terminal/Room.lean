import Chip8.Proofs.Emulator.Frames
import Chip8.Proofs.Terminal.Picture
import Chip8.Proofs.Terminal.Session

namespace Chip8.Screen

section Minimum

variable (d : Display)

theorem toNat_displayWidth : (displayWidth d).toNat = (d.width + 2) % 65536 := by
  have htwo : (2 : UInt16).toNat = 2 := rfl
  rw [displayWidth, UInt16.toNat_add, UInt16.toNat_ofNat', htwo]
  omega

theorem toNat_displayHeight : (displayHeight d).toNat = (d.height + 2) % 65536 := by
  have htwo : (2 : UInt16).toNat = 2 := rfl
  rw [displayHeight, UInt16.toNat_add, UInt16.toNat_ofNat', htwo]
  omega

theorem toNat_minWidth : (minWidth d).toNat = (d.width + 19) % 65536 := by
  have hside : sideWidth.toNat = 17 := rfl
  rw [minWidth, UInt16.toNat_add, toNat_displayWidth, hside]
  omega

theorem toNat_minHeight : (minHeight d).toNat = (d.height + 5) % 65536 := by
  have hstatus : statusHeight.toNat = 3 := rfl
  rw [minHeight, UInt16.toNat_add, toNat_displayHeight, hstatus]
  omega

end Minimum

section Render

variable {s : Session} {width height : Nat}

theorem countsSizes_of_lt {d : Display} (hwidth : d.width + 19 < 65536)
    (hheight : d.height + 5 < 65536) : countsSizes d = true := by
  have hside : sideWidth.toNat = 17 := rfl
  have hstatus : statusHeight.toNat = 3 := rfl
  simp only [countsSizes, UInt16.toNat_ofNat', hside, hstatus, Bool.and_eq_true, decide_eq_true_eq]
  omega

theorem render_of_lt (hwidth : s.emulator.machine.display.width + 19 < 65536)
    (hheight : s.emulator.machine.display.height + 5 < 65536) :
    render s width height = .ok (draw s width height) :=
  if_pos (countsSizes_of_lt hwidth hheight)

end Render

section Layout

variable {d : Display} {width height : Nat}

theorem tooSmall_eq_true_iff :
    tooSmall d width height = true ↔
      width < (d.width + 19) % 65536 ∨ height < (d.height + 5) % 65536 := by
  simp [tooSmall, toNat_minWidth, toNat_minHeight]

theorem share_of_le {room first second : Nat} (h : first + second ≤ room) :
    share room first second = (first, second) :=
  if_pos h

theorem display_layout (hwidth : d.width + 19 ≤ width) (hheight : d.height + 5 ≤ height)
    (hcolumns : width < 65536) (hrows : height < 65536) :
    (layout d width height).display = ⟨0, 0, d.width + 2, d.height + 2⟩ := by
  have hwide : (displayWidth d).toNat = d.width + 2 := by
    rw [toNat_displayWidth]
    omega
  have hhigh : (displayHeight d).toNat = d.height + 2 := by
    rw [toNat_displayHeight]
    omega
  have hside : sideWidth.toNat = 17 := rfl
  have hstatus : statusHeight.toNat = 3 := rfl
  simp only [layout, hwide, hhigh, hside, hstatus]
  rw [share_of_le (by omega), share_of_le (by omega)]

end Layout

section Message

variable {s : Session} {width height : Nat}

def ShowsMessage (s : Session) (width height : Nat) : Prop :=
  panels s width height = [tooSmallPanel s.emulator.machine.display ⟨0, 0, width, height⟩]

-- The screen is the five panels, and that of the display lies on it with a cell
-- inside its border for every pixel.
structure ShowsPanels (s : Session) (width height : Nat) : Prop where
  panels_eq : panels s width height =
    let areas := layout s.emulator.machine.display width height
    [displayPanel s.frame areas.display, statusPanel s.status areas.status,
      registersPanel s.emulator.machine areas.registers,
      keypadPanel s.emulator.keys areas.keypad, stackPanel s.emulator.machine.stack areas.stack]
  display_le :
    let area := (layout s.emulator.machine.display width height).display
    area.left + area.width ≤ width ∧ area.top + area.height ≤ height
  pixel_interior : ∀ x y, x < s.emulator.machine.display.width →
    y < s.emulator.machine.display.height →
    let area := (layout s.emulator.machine.display width height).display
    area.Interior (area.left + 1 + x) (area.top + 1 + y)

theorem showsMessage_iff :
    ShowsMessage s width height ↔ tooSmall s.emulator.machine.display width height = true := by
  constructor
  · intro h
    by_contra hroom
    rw [ShowsMessage, panels_of_room (Bool.not_eq_true _ ▸ hroom)] at h
    exact absurd (congrArg List.length h) (by simp)
  · intro h
    exact if_pos h

theorem showsPanels_of_room (hwidth : s.emulator.machine.display.width + 19 ≤ width)
    (hheight : s.emulator.machine.display.height + 5 ≤ height)
    (hcolumns : width < 65536) (hrows : height < 65536) : ShowsPanels s width height := by
  have harea := display_layout hwidth hheight hcolumns hrows
  have hroom : tooSmall s.emulator.machine.display width height = false := by
    rw [← Bool.not_eq_true, tooSmall_eq_true_iff]
    omega
  refine ⟨panels_of_room hroom, ?_, ?_⟩
  · simp only [harea]
    omega
  · intro x y hx hy
    simp only [harea, Area.Interior]
    omega

end Message

end Chip8.Screen

namespace Chip8.Session

open Screen (ShowsMessage ShowsPanels)

variable {c : Config}

theorem shape_display_of_new {unseeded : RandomKey} {font program : List UInt8} {e : Emulator}
    (hnew : Emulator.new c unseeded font program = .ok e) (events : List Event) :
    ((start e).after events).emulator.machine.display.width = c.width ∧
    ((start e).after events).emulator.machine.display.height = c.height := by
  obtain ⟨-, -, -, -, rfl⟩ := Emulator.new_eq_ok_iff.mp hnew
  obtain ⟨fed, hfed⟩ := emulator_after (s := start (.built c unseeded font program)) events
  obtain ⟨hwidth, hheight⟩ :=
    Emulator.shape_display_after (e := .built c unseeded font program) fed
  rw [hfed]
  exact ⟨hwidth, hheight⟩

-- A terminal lacks columns or rows for the display, its border and the other
-- panels.
def LacksRoom (c : Config) (width height : Nat) : Prop :=
  width < c.width + 19 ∨ height < c.height + 5

-- In every run, terminals that lack room get the message and nothing else, and
-- all others get the panels.
def JudgesRoom (c : Config) : Prop :=
  ∀ unseeded font program e, Emulator.new c unseeded font program = .ok e →
    ∀ events (width height : UInt16),
      let s := (start e).after events
      (ShowsMessage s width.toNat height.toNat ↔ LacksRoom c width.toNat height.toNat) ∧
      (¬ LacksRoom c width.toNat height.toNat → ShowsPanels s width.toNat height.toNat)

-- Room is judged rightly exactly if the minimum is a 16-bit word.
theorem judgesRoom_iff (c : Config) :
    JudgesRoom c ↔
      (c.validate = .ok () → c.Allocatable → c.width + 19 < 65536 ∧ c.height + 5 < 65536) := by
  constructor
  · intro h hvalidate hfits
    have hnew := Emulator.new_blank hvalidate hfits
    obtain ⟨hwidth, hheight⟩ := shape_display_of_new hnew []
    -- the largest terminal always gets the panels
    have hpanels : ¬ ShowsMessage ((start (.built c (Vector.replicate 8 0) [] [])).after [])
        (65535 : UInt16).toNat (65535 : UInt16).toNat := by
      have hlargest : (65535 : UInt16).toNat = 65535 := rfl
      rw [Screen.showsMessage_iff, Screen.tooSmall_eq_true_iff, hlargest]
      omega
    have hroom := mt (h _ _ _ _ hnew [] 65535 65535).1.mpr hpanels
    have hlargest : (65535 : UInt16).toNat = 65535 := rfl
    rw [LacksRoom, hlargest] at hroom
    omega
  · intro h unseeded font program e hnew events width height
    obtain ⟨hwidth, hheight⟩ := shape_display_of_new hnew events
    obtain ⟨hvalidate, hfits, -⟩ := Emulator.new_eq_ok_iff.mp hnew
    obtain ⟨hcolumns, hrows⟩ := h hvalidate hfits
    have hwide := width.toNat_lt
    have hhigh := height.toNat_lt
    constructor
    · rw [Screen.showsMessage_iff, Screen.tooSmall_eq_true_iff, LacksRoom, hwidth, hheight]
      omega
    · intro hroom
      unfold LacksRoom at hroom
      apply Screen.showsPanels_of_room <;> omega

-- A display of 65537 columns, which wrap to one.
def wideDisplay : Config where
  width := 65537
  height := 1

theorem narrow_terminal_gets_panels :
    ∃ e, Emulator.new wideDisplay (Vector.replicate 8 0) [] [] = .ok e ∧
      LacksRoom wideDisplay 20 22 ∧
      Screen.render (start e) 20 22 = .ok (Screen.draw (start e) 20 22) ∧
      ¬ ShowsMessage (start e) 20 22 ∧ ¬ ShowsPanels (start e) 20 22 := by
  have hnew := Emulator.new_blank (c := wideDisplay) (by decide) (by decide)
  refine ⟨_, hnew, .inl (by decide), if_pos (by decide), ?_, ?_⟩
  · rw [Screen.showsMessage_iff]
    decide
  · intro h
    have hpixel := h.pixel_interior 1 0 (by decide) (by decide)
    revert hpixel
    decide

end Chip8.Session
