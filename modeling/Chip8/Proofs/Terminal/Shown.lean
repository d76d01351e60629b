import Mathlib.Data.List.Pairwise
import Chip8.Proofs.Terminal.Room

namespace Chip8

namespace Panel

variable {p : Panel}

theorem symbol_top_iff (hwidth : 2 ≤ p.area.width) (htitle : '┐' ∉ p.title.toList) {column : Nat} :
    (p.inside column 0).symbol = '┐' ↔ column + 1 = p.area.width := by
  unfold inside
  cases h : p.title? column 0 with
  | some symbol =>
    have hshown : column ≤ p.innerWidth ∧ p.title.toList[column - 1]? = some symbol := by
      unfold title? at h
      split at h
      · exact ⟨by omega, h⟩
      · contradiction
    obtain ⟨hcolumn, hsymbol⟩ := hshown
    have hne : symbol ≠ '┐' := fun heq => htitle (heq ▸ List.mem_of_getElem? hsymbol)
    unfold innerWidth at hcolumn
    simp only [hne, false_iff]
    omega
  | none =>
    unfold border?
    grind

theorem symbol_left_iff (hheight : 2 ≤ p.area.height) {row : Nat} :
    (p.inside 0 row).symbol = '└' ↔ row + 1 = p.area.height := by
  have htitle : p.title? 0 row = none := by simp [title?]
  unfold inside border?
  grind

end Panel

-- Reads a frame off the upper left corner of a picture. The corners of its border
-- tell how large it is.
def readFrame (picture : Array Line) : Frame :=
  let width := (picture[0]?.getD #[]).findIdx (fun cell => cell.symbol = '┐') - 1
  let height := picture.findIdx (fun row => row[0]?.any fun cell => cell.symbol = '└') - 1
  (Array.range height).map fun y => (Array.range width).map fun x =>
    (cellAt? picture (x + 1) (y + 1)).any fun cell => cell.symbol = '█'

namespace Session

def taken? (s : Session) : Event → Option Display
  | .takeFrame => s.emulator.takeFrame.1
  | _ => none

def takes (s : Session) : List Event → List Display
  | [] => []
  | event :: rest => (s.taken? event).toList ++ (s.handle event).takes rest

-- The display that a run took last. The first frame is taken at the start.
def lastTaken (e : Emulator) (events : List Event) : Display :=
  ((start e).takes events).getLastD e.machine.display

section Takes

variable {s : Session}

theorem takes_append (events later : List Event) :
    s.takes (events ++ later) = s.takes events ++ (s.after events).takes later := by
  induction events generalizing s with
  | nil => rfl
  | cons event rest ih =>
    rw [List.cons_append, takes, ih, takes, List.append_assoc]
    rfl

theorem lastTaken_append {e : Emulator} {events later : List Event}
    (h : ((start e).after events).takes later = []) :
    lastTaken e (events ++ later) = lastTaken e events := by
  rw [lastTaken, takes_append, h, List.append_nil, lastTaken]

theorem frame_handle (event : Event) :
    (s.handle event).frame = ((s.taken? event).map Display.rows).getD s.frame := by
  cases event with
  | key now event =>
    show (s.handleKey now event).frame = s.frame
    obtain ⟨-, heq⟩ | ⟨-, ⟨-, heq⟩ | ⟨key, -, -, heq⟩ | ⟨key, -, -, heq⟩⟩ :=
      handleKey_cases s now event
    all_goals simp only [heq, press, release]
  | expire overdue =>
    exact releaseOverdue_induction (motive := fun t => t.frame = s.frame) overdue rfl
      fun t key ht => ht
  | update delta => rfl
  | takeFrame =>
    show s.takeFrame.2.frame = _
    rw [takeFrame_eq]
    rfl
  | status text => rfl

theorem frame_after {shown : Display} (h : s.frame = shown.rows) (events : List Event) :
    (s.after events).frame = ((s.takes events).getLastD shown).rows := by
  induction events generalizing s shown with
  | nil => exact h
  | cons event rest ih =>
    have hframe := s.frame_handle event
    show ((s.handle event).after rest).frame = _
    cases htaken : s.taken? event with
    | none =>
      rw [htaken] at hframe
      rw [takes, htaken, ih (hframe.trans h)]
      rfl
    | some display =>
      rw [htaken] at hframe
      rw [takes, htaken, ih hframe, Option.toList_some, List.singleton_append, List.getLastD_cons]

theorem eq_settled_of_taken? {event : Event} {display : Display}
    (h : s.taken? event = some display) : display = s.emulator.machine.display.settled := by
  cases event with
  | takeFrame =>
    have htaken : s.emulator.takeFrame.1 = some display := h
    rw [Emulator.takeFrame_eq] at htaken
    split at htaken
    · exact (Option.some.inj htaken).symm
    · contradiction
  | _ => contradiction

theorem sized_handle {width height : Nat} (h : s.emulator.machine.display.Sized width height)
    (event : Event) : (s.handle event).emulator.machine.display.Sized width height := by
  obtain ⟨fed, hfed⟩ := s.emulator_handle event
  obtain ⟨hwidth, hheight⟩ := s.emulator.shape_display_after fed
  rw [hfed]
  exact Display.sized_of_eq (hwidth.trans h.width_eq) (hheight.trans h.height_eq)

theorem sized_getLastD_takes {shown : Display} {width height : Nat}
    (hshown : shown.Sized width height) (hlive : s.emulator.machine.display.Sized width height)
    (events : List Event) : ((s.takes events).getLastD shown).Sized width height := by
  induction events generalizing s shown with
  | nil => exact hshown
  | cons event rest ih =>
    have hnext := sized_handle hlive event
    cases htaken : s.taken? event with
    | none =>
      rw [takes, htaken]
      exact ih hshown hnext
    | some display =>
      have hdisplay : display.Sized width height := eq_settled_of_taken? htaken ▸ hlive.settled
      rw [takes, htaken, Option.toList_some, List.singleton_append, List.getLastD_cons]
      exact ih hdisplay hnext

end Takes

end Session

namespace Screen

structure HasRoom (s : Session) (width height : Nat) : Prop where
  columns : s.emulator.machine.display.width + 19 ≤ width
  rows : s.emulator.machine.display.height + 5 ≤ height
  width_lt : width < 65536
  height_lt : height < 65536

def framePanel (s : Session) : Panel :=
  displayPanel s.frame
    ⟨0, 0, s.emulator.machine.display.width + 2, s.emulator.machine.display.height + 2⟩

@[simp] theorem area_framePanel (s : Session) :
    (framePanel s).area =
      ⟨0, 0, s.emulator.machine.display.width + 2, s.emulator.machine.display.height + 2⟩ :=
  rfl

-- What a terminal shows of the frame of a display. Each pixel has a cell inside the
-- border of the panel, which no other panel covers. The cell is green, with a full
-- block where the pixel is lit and a blank where it is not, and from the picture
-- alone the frame can be read.
structure ShowsFrame (s : Session) (d : Display) (width height : Nat) : Prop where
  render_eq : render s width height = .ok (draw s width height)
  mem : framePanel s ∈ panels s width height
  inside : ∀ x y, x < d.width → y < d.height → (framePanel s).area.Interior (x + 1) (y + 1)
  alone : ∀ x y, x < d.width → y < d.height → ∀ p ∈ panels s width height,
    p.area.Contains (x + 1) (y + 1) → p = framePanel s
  cell_eq : ∀ x y, x < d.width → y < d.height →
    cellAt? (draw s width height) (x + 1) (y + 1) =
      some { symbol := if d.pixel x y then '█' else ' ', style := { foreground := .green } }
  read_eq : readFrame (draw s width height) = d.rows

section Frame

variable {s : Session} {width height : Nat}

theorem HasRoom.tooSmall_eq (h : HasRoom s width height) :
    tooSmall s.emulator.machine.display width height = false := by
  obtain ⟨hcolumns, hrows, hwidth, hheight⟩ := h
  rw [← Bool.not_eq_true, tooSmall_eq_true_iff]
  omega

theorem HasRoom.render_eq (h : HasRoom s width height) :
    render s width height = .ok (draw s width height) := by
  obtain ⟨hcolumns, hrows, hwidth, hheight⟩ := h
  exact render_of_lt (by omega) (by omega)

theorem HasRoom.framePanel_mem (h : HasRoom s width height) :
    framePanel s ∈ panels s width height := by
  have harea := display_layout h.columns h.rows h.width_lt h.height_lt
  simp [panels_of_room h.tooSmall_eq, framePanel, harea]

theorem contains_framePanel {x y : Nat} (hx : x < s.emulator.machine.display.width + 2)
    (hy : y < s.emulator.machine.display.height + 2) : (framePanel s).area.Contains x y := by
  simp only [Area.Contains, area_framePanel]
  omega

theorem interior_framePanel {x y : Nat} (hx : x < s.emulator.machine.display.width)
    (hy : y < s.emulator.machine.display.height) :
    (framePanel s).area.Interior (x + 1) (y + 1) := by
  simp only [Area.Interior, area_framePanel]
  omega

theorem HasRoom.eq_framePanel (h : HasRoom s width height) {p : Panel}
    (hp : p ∈ panels s width height) {x y : Nat} (hcell : p.area.Contains x y)
    (hframe : (framePanel s).area.Contains x y) : p = framePanel s := by
  by_contra hne
  have : Std.Symm fun p q : Panel => p.area.Disjoint q.area :=
    ⟨fun p q hdisjoint x y hq hp => hdisjoint x y hp hq⟩
  have hdisjoint := (disjoint_panels h.tooSmall_eq).forall hp h.framePanel_mem hne
  exact hdisjoint x y hcell hframe

theorem HasRoom.pictureCell_eq (h : HasRoom s width height) {x y : Nat}
    (hx : x < s.emulator.machine.display.width + 2)
    (hy : y < s.emulator.machine.display.height + 2) :
    pictureCell (panels s width height) x y = (framePanel s).inside x y := by
  have hcell := contains_framePanel hx hy
  have hshown := pictureCell_of_disjoint (disjoint_panels h.tooSmall_eq) h.framePanel_mem hcell
  rw [Panel.cell?_of_contains hcell] at hshown
  exact (Option.some.inj hshown).symm

theorem HasRoom.cellAt?_eq (h : HasRoom s width height) {x y : Nat}
    (hx : x < s.emulator.machine.display.width + 2)
    (hy : y < s.emulator.machine.display.height + 2) :
    cellAt? (draw s width height) x y = some ((framePanel s).inside x y) := by
  have hcolumns := h.columns
  have hrows := h.rows
  rw [← h.pictureCell_eq hx hy]
  exact cellAt?_picture (by omega) (by omega)

theorem symbol_top_framePanel (column : Nat) :
    ((framePanel s).inside column 0).symbol = '┐' ↔
      column = s.emulator.machine.display.width + 1 := by
  have htitle : '┐' ∉ (framePanel s).title.toList := by
    show '┐' ∉ " chippy ".toList
    decide
  rw [Panel.symbol_top_iff (by simp) htitle]
  simp

theorem symbol_left_framePanel (row : Nat) :
    ((framePanel s).inside 0 row).symbol = '└' ↔ row = s.emulator.machine.display.height + 1 := by
  rw [Panel.symbol_left_iff (by simp)]
  simp

theorem HasRoom.findIdx_top (h : HasRoom s width height) :
    (((draw s width height)[0]?.getD #[]).findIdx fun cell => cell.symbol = '┐') =
      s.emulator.machine.display.width + 1 := by
  have hcolumns := h.columns
  have hrows := h.rows
  have htop : (draw s width height)[0]?.getD #[] =
      (Array.range width).map fun x => pictureCell (panels s width height) x 0 := by
    simp [draw, picture, show 0 < height by omega]
  rw [htop, Array.findIdx_eq (by simp; omega)]
  constructor
  · simp [h.pictureCell_eq, symbol_top_framePanel]
  · intro x hx
    simp [h.pictureCell_eq (show x < _ + 2 by omega), symbol_top_framePanel]
    omega

theorem HasRoom.findIdx_left (h : HasRoom s width height) :
    ((draw s width height).findIdx fun row => row[0]?.any fun cell => cell.symbol = '└') =
      s.emulator.machine.display.height + 1 := by
  have hcolumns := h.columns
  have hrows := h.rows
  have hfirst : 0 < width := by omega
  rw [Array.findIdx_eq (by simp [draw, picture]; omega)]
  constructor
  · simp [draw, picture, hfirst, h.pictureCell_eq, symbol_left_framePanel]
  · intro y hy
    simp [draw, picture, hfirst, h.pictureCell_eq (Nat.succ_pos _) (show y < _ + 2 by omega),
      symbol_left_framePanel]
    omega

section Pixels

variable {d : Display}

theorem HasRoom.cellAt?_pixel (h : HasRoom s width height)
    (hsized : d.Sized s.emulator.machine.display.width s.emulator.machine.display.height)
    (hframe : s.frame = d.rows) {x y : Nat} (hx : x < d.width) (hy : y < d.height) :
    cellAt? (draw s width height) (x + 1) (y + 1) = some (pixelCell (d.pixel x y)) := by
  obtain ⟨hcolumns, hrows, -⟩ := hsized
  have hinside := interior_framePanel (hcolumns ▸ hx) (hrows ▸ hy)
  have hcell := Panel.cell?_of_interior hinside
  rw [Panel.cell?_of_contains hinside.contains] at hcell
  have hpixels := Display.rows_eq (d := d) (by omega)
  have htext : (framePanel s).text? (x + 1) (y + 1) = some (pixelCell (d.pixel x y)) := by
    simp [framePanel, displayPanel, Panel.text?, Panel.indent, hframe, hpixels, hx, hy]
  rw [area_framePanel, Nat.sub_zero, Nat.sub_zero, htext] at hcell
  rw [h.cellAt?_eq (by omega) (by omega), hcell]
  rfl

theorem showsFrame_of_room (h : HasRoom s width height)
    (hsized : d.Sized s.emulator.machine.display.width s.emulator.machine.display.height)
    (hpos : 0 < d.width) (hframe : s.frame = d.rows) : ShowsFrame s d width height := by
  have hinside : ∀ x y, x < d.width → y < d.height →
      (framePanel s).area.Interior (x + 1) (y + 1) := by
    intro x y hx hy
    exact interior_framePanel (hsized.width_eq ▸ hx) (hsized.height_eq ▸ hy)
  refine ⟨h.render_eq, h.framePanel_mem, hinside, ?_, ?_, ?_⟩
  · intro x y hx hy p hp hcell
    exact h.eq_framePanel hp hcell (hinside x y hx hy).contains
  · intro x y hx hy
    exact h.cellAt?_pixel hsized hframe hx hy
  · rw [readFrame, h.findIdx_top, h.findIdx_left, ← hsized.width_eq, ← hsized.height_eq,
      Display.rows_eq hpos]
    simp only [Nat.add_sub_cancel]
    apply Array.map_congr_left
    intro y hy
    apply Array.map_congr_left
    intro x hx
    rw [h.cellAt?_pixel hsized hframe (Array.mem_range.mp hx) (Array.mem_range.mp hy)]
    cases d.pixel x y <;> rfl

end Pixels

end Frame

end Screen

namespace Session

open Screen (HasRoom ShowsFrame)

section Run

variable {c : Config} {unseeded : RandomKey} {font program : List UInt8} {e : Emulator}
variable {width height : UInt16}

theorem hasRoom_after (hnew : Emulator.new c unseeded font program = .ok e)
    (hwidth : c.width + 19 ≤ width.toNat) (hheight : c.height + 5 ≤ height.toNat)
    (events : List Event) : HasRoom ((start e).after events) width.toNat height.toNat := by
  obtain ⟨hcolumns, hrows⟩ := shape_display_of_new hnew events
  exact ⟨by omega, by omega, width.toNat_lt, height.toNat_lt⟩

theorem sized_lastTaken (hnew : Emulator.new c unseeded font program = .ok e)
    (events : List Event) : (lastTaken e events).Sized c.width c.height := by
  obtain ⟨-, -, -, -, rfl⟩ := Emulator.new_eq_ok_iff.mp hnew
  have hblank : (Display.blank c.width c.height).Sized c.width c.height :=
    Display.sized_of_eq rfl rfl
  exact sized_getLastD_takes (s := start (.built c unseeded font program)) hblank hblank events

theorem showsFrame_after (hnew : Emulator.new c unseeded font program = .ok e)
    (hwidth : c.width + 19 ≤ width.toNat) (hheight : c.height + 5 ≤ height.toNat)
    (events : List Event) :
    ShowsFrame ((start e).after events) (lastTaken e events) width.toNat height.toNat := by
  have hroom := hasRoom_after hnew hwidth hheight events
  have hpos := (Config.valid_of_validate (Emulator.new_eq_ok_iff.mp hnew).1).width_pos
  obtain ⟨hcolumns, hrows⟩ := shape_display_of_new hnew events
  have hsized := sized_lastTaken hnew events
  rw [← hsized.width_eq] at hpos
  rw [← hcolumns, ← hrows] at hsized
  exact Screen.showsFrame_of_room hroom hsized hpos (frame_after rfl events)

-- A terminal with nineteen columns and five rows more than the display shows the
-- frame that was taken last, and still does after events that take none. Since
-- terminals are counted in 16-bit words, the display is then one that fits a word.
theorem screen_shows_last_taken (hnew : Emulator.new c unseeded font program = .ok e)
    (hwidth : c.width + 19 ≤ width.toNat) (hheight : c.height + 5 ≤ height.toNat)
    (events : List Event) :
    let shown := lastTaken e events
    (shown.width = c.width ∧ shown.height = c.height) ∧
      ShowsFrame ((start e).after events) shown width.toNat height.toNat ∧
      ∀ later, ((start e).after events).takes later = [] →
        ShowsFrame ((start e).after (events ++ later)) shown width.toNat height.toNat := by
  intro shown
  have hsized := sized_lastTaken hnew events
  refine ⟨⟨hsized.width_eq, hsized.height_eq⟩, showsFrame_after hnew hwidth hheight events, ?_⟩
  intro later hlater
  have hkept := showsFrame_after hnew hwidth hheight (events ++ later)
  rwa [lastTaken_append hlater] at hkept

def oneRow : Config where
  memorySize := 4
  programAddress := 0
  fontAddress := 0
  width := 8
  height := 1

-- Draws its own first byte, and then draws it again.
def redrawing : List UInt8 := [0xD0, 0x01, 0xD0, 0x01]

def redrawingEmulator : Emulator := .built oneRow (Vector.replicate 8 0) [] redrawing

theorem screen_shows_last_taken_redrawing :
    Emulator.new oneRow (Vector.replicate 8 0) [] redrawing = .ok redrawingEmulator ∧
      let events := [.update Timer.second, .takeFrame]
      let shown := lastTaken redrawingEmulator events
      shown.pixels = #[true, true, false, true, false, false, false, false] ∧
      let s := (start redrawingEmulator).after (events ++ [.update Timer.second])
      s.emulator.machine.display.pixels = Array.replicate 8 false ∧ ShowsFrame s shown 27 22 := by
  have hnew : Emulator.new oneRow (Vector.replicate 8 0) [] redrawing = .ok redrawingEmulator :=
    Emulator.new_eq_ok_iff.mpr ⟨by decide, by decide, by decide, by decide, rfl⟩
  have hwidth : oneRow.width + 19 ≤ (27 : UInt16).toNat := by decide
  have hheight : oneRow.height + 5 ≤ (22 : UInt16).toNat := by decide
  obtain ⟨-, -, hkept⟩ :=
    screen_shows_last_taken hnew hwidth hheight [.update Timer.second, .takeFrame]
  refine ⟨hnew, by decide +kernel, by decide +kernel, ?_⟩
  exact hkept [.update Timer.second] (by decide +kernel)

end Run

end Session

end Chip8
