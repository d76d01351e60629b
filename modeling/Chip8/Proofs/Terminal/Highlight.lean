import Chip8.Proofs.Emulator.Conformance
import Chip8.Proofs.Terminal.Picture
import Chip8.Proofs.Terminal.Session
import Chip8.Proofs.Text.Numeral

namespace Chip8.Screen

def highlight : Style := { foreground := .black, background := .green }

def placedKey? (row column : Nat) : Option Nibble :=
  keypadRows[row]?.bind fun keys => keys[column]?.map Prod.fst

-- The twelve cells of a row of keys stand in the middle of the panel.
def keyIndent (area : Area) : Nat := (area.width - 2) / 2 - 6

def firstKeyColumn (area : Area) : Nat := area.left + 1 + keyIndent area

-- The key that a cell of the screen belongs to, if the keypad takes an area.
def keyShownAt? (area : Area) (x y : Nat) : Option Nibble :=
  if area.Interior x y ∧ firstKeyColumn area ≤ x then
    placedKey? (y - area.top - 1) ((x - firstKeyColumn area) / 3)
  else
    none

section Keypad

def keyCell (keys : Keypad) (key : Nibble) (part : Nat) : Cell where
  symbol := if part = 1 then Text.digitChar key.val else ' '
  style := if keys.isDown key then highlight else {}

theorem keyCells_eq (keys : Keypad) (key : Nibble) :
    keyCells keys key = #[keyCell keys key 0, keyCell keys key 1, keyCell keys key 2] := by
  simp [keyCells, Line.ofString, Text.toList_hex_one key.val_lt, keyCell, highlight]

theorem getElem?_keyCells (keys : Keypad) (key : Nibble) {part : Nat} (h : part < 3) :
    (keyCells keys key)[part]? = some (keyCell keys key part) := by
  rw [keyCells_eq]
  match part, h with
  | 0, _ => rfl
  | 1, _ => rfl
  | 2, _ => rfl

def keyRow (keys : Keypad) (row : List (Nibble × Char)) : Line :=
  (row.flatMap fun place => (keyCells keys place.1).toList).toArray

theorem lines_keypadPanel (keys : Keypad) (area : Area) :
    (keypadPanel keys area).lines = (keypadRows.map (keyRow keys)).toArray :=
  rfl

theorem getElem?_keyRow (keys : Keypad) (row : List (Nibble × Char)) (k : Nat) :
    (keyRow keys row)[k]? = row[k / 3]?.map fun place => keyCell keys place.1 (k % 3) := by
  show (row.flatMap fun place => (keyCells keys place.1).toList).toArray[k]? = _
  rw [List.getElem?_toArray]
  induction row generalizing k with
  | nil => rfl
  | cons place rest ih =>
    have hlength : (keyCells keys place.1).toList.length = 3 := by simp [keyCells_eq]
    rw [List.flatMap_cons]
    by_cases hk : k < 3
    · have hplace : k / 3 = 0 := by omega
      have hpart : k % 3 = k := by omega
      rw [List.getElem?_append_left (by omega), hplace, hpart, Array.getElem?_toList,
        getElem?_keyCells keys place.1 hk]
      rfl
    · have hplace : k / 3 = (k - 3) / 3 + 1 := by omega
      have hpart : k % 3 = (k - 3) % 3 := by omega
      rw [List.getElem?_append_right (by omega), hlength, ih, hplace, hpart]
      rfl

theorem size_keyRow {keys : Keypad} {row : List (Nibble × Char)} (h : row ∈ keypadRows) :
    (keyRow keys row).size = 12 := by
  have hlength : ∀ row ∈ keypadRows, row.length = 4 := by decide
  simp [keyRow, keyCells_eq, hlength row h]

theorem text?_keypadPanel (keys : Keypad) (area : Area) (column row : Nat) :
    (keypadPanel keys area).text? column row =
      if keyIndent area + 1 ≤ column then
        (placedKey? (row - 1) ((column - 1 - keyIndent area) / 3)).map fun key =>
          keyCell keys key ((column - 1 - keyIndent area) % 3)
      else none := by
  have hline : (keypadPanel keys area).lines[row - 1]? = keypadRows[row - 1]?.map (keyRow keys) := by
    rw [lines_keypadPanel, List.getElem?_toArray, List.getElem?_map]
  unfold Panel.text? placedKey?
  rw [hline]
  cases hrow : keypadRows[row - 1]? with
  | none => simp
  | some places =>
    have hindent : (keypadPanel keys area).indent (keyRow keys places) = keyIndent area := by
      show (area.width - 2) / 2 - (keyRow keys places).size / 2 = _
      rw [size_keyRow (List.mem_of_getElem? hrow), keyIndent]
    simp only [Option.map_some, Option.bind_eq_bind, Option.bind_some, hindent, getElem?_keyRow,
      Option.map_map]
    rfl

theorem interior_of_shown {area : Area} {x y : Nat} {key : Nibble}
    (h : keyShownAt? area x y = some key) : area.Interior x y := by
  unfold keyShownAt? at h
  split at h
  · rename_i hplace
    exact hplace.1
  · contradiction

theorem exists_shown {area : Area} (hwidth : 14 ≤ area.width) (hheight : 6 ≤ area.height)
    (key : Nibble) :
    ∃ x y, ∀ part < 3,
      keyShownAt? area (x + part) y = some key ∧ (x + part - firstKeyColumn area) % 3 = part := by
  have hplaced : ∀ key, ∃ column < 4, ∃ row < 4, placedKey? row column = some key := by decide
  obtain ⟨column, hcolumn, row, hrow, hkey⟩ := hplaced key
  refine ⟨firstKeyColumn area + 3 * column, area.top + 1 + row, fun part hpart => ?_⟩
  have hinterior : area.Interior (firstKeyColumn area + 3 * column + part) (area.top + 1 + row) := by
    unfold Area.Interior firstKeyColumn keyIndent
    omega
  have hx : firstKeyColumn area + 3 * column + part - firstKeyColumn area = 3 * column + part := by
    omega
  have hy : area.top + 1 + row - area.top - 1 = row := by omega
  have hplace : (3 * column + part) / 3 = column := by omega
  refine ⟨?_, by omega⟩
  rw [keyShownAt?, if_pos ⟨hinterior, by omega⟩, hx, hy, hplace, hkey]

theorem cell?_keypadPanel {area : Area} {x y : Nat} (keys : Keypad) (h : area.Interior x y) :
    (keypadPanel keys area).cell? x y =
      some (((keyShownAt? area x y).map fun key =>
        keyCell keys key ((x - firstKeyColumn area) % 3)).getD {}) := by
  have hcolumn : x - area.left - 1 - keyIndent area = x - firstKeyColumn area := by
    unfold firstKeyColumn
    omega
  have hfirst : keyIndent area + 1 ≤ x - area.left ↔ firstKeyColumn area ≤ x := by
    unfold firstKeyColumn Area.Interior at *
    omega
  have harea : (keypadPanel keys area).area = area := rfl
  rw [Panel.cell?_of_interior h, text?_keypadPanel, harea]
  simp only [hcolumn, hfirst, keyShownAt?, h, true_and]
  split <;> rfl

theorem style_keyCell_iff {keys : Keypad} {key : Nibble} {part : Nat} :
    (keyCell keys key part).style = highlight ↔ keys.isDown key = true := by
  unfold keyCell
  cases keys.isDown key <;> simp [highlight]

theorem style_keypadPanel_iff {keys : Keypad} {area : Area} {x y : Nat} {cell : Cell}
    (hcell : (keypadPanel keys area).cell? x y = some cell) :
    cell.style = highlight ↔ ∃ key, keyShownAt? area x y = some key ∧ keys.isDown key = true := by
  by_cases h : area.Interior x y
  · rw [cell?_keypadPanel keys h] at hcell
    rw [← Option.some.inj hcell]
    cases hkey : keyShownAt? area x y with
    | none => simp [highlight]
    | some key => simp [style_keyCell_iff]
  · have hstyle := Panel.style_of_not_interior hcell h
    have hkey : keyShownAt? area x y = none := if_neg fun hplace => h hplace.1
    rw [hstyle, hkey]
    simp [keypadPanel, highlight]

end Keypad

section Plain

variable {area : Area}

theorem plain_displayPanel (frame : Frame) : (displayPanel frame area).Plain := by
  refine ⟨rfl, fun line hline cell hcell => ?_⟩
  obtain ⟨row, -, rfl⟩ := Array.mem_map.mp hline
  obtain ⟨lit, -, rfl⟩ := Array.mem_map.mp hcell
  rfl

theorem plain_statusPanel (status : String) : (statusPanel status area).Plain := by
  refine ⟨rfl, fun line hline cell hcell => ?_⟩
  obtain ⟨text, -, rfl⟩ := List.mem_map.mp (List.mem_toArray.mp hline)
  rw [Line.style_of_mem_ofText hcell]

theorem plain_registersPanel (m : Machine) : (registersPanel m area).Plain := by
  refine ⟨rfl, fun line hline cell hcell => ?_⟩
  obtain ⟨text, -, rfl⟩ := List.mem_map.mp (List.mem_toArray.mp hline)
  rw [Line.style_of_mem_ofString hcell]

theorem mem_stackLines {live : List UInt16} {height : Nat} {line : Line}
    (h : line ∈ stackLines live height) : ∃ text dim, line = Line.ofString text { dim } := by
  unfold stackLines at h
  extract_lets rows entries hidden at h
  have hentries : ∀ entry ∈ entries, ∃ text dim, entry = Line.ofString text { dim } := by
    intro entry hentry
    obtain ⟨address, -, rfl⟩ := List.mem_map.mp hentry
    exact ⟨_, false, rfl⟩
  split at h
  · rcases List.mem_append.mp h with hentry | hsummary
    · exact hentries line (List.dropLast_subset _ hentry)
    · rw [List.mem_singleton.mp hsummary]
      exact ⟨_, true, rfl⟩
  · exact hentries line h

theorem plain_stackPanel (stack : CallStack) : (stackPanel stack area).Plain := by
  refine ⟨rfl, fun line hline cell hcell => ?_⟩
  obtain ⟨text, dim, rfl⟩ := mem_stackLines (List.mem_toArray.mp hline)
  rw [Line.style_of_mem_ofString hcell]

theorem plain_tooSmallPanel (d : Display) : (tooSmallPanel d area).Plain := by
  refine ⟨rfl, fun line hline cell hcell => ?_⟩
  obtain rfl := List.mem_singleton.mp (List.mem_toArray.mp hline)
  rw [Line.style_of_mem_ofString hcell]

end Plain

section Session

variable {s : Session} {width height : Nat}

def keypadArea (s : Session) (width height : Nat) : Area :=
  (layout s.emulator.machine.display width height).keypad

theorem plain_or_keypad {p : Panel} (hp : p ∈ panels s width height) :
    p.Plain ∨ tooSmall s.emulator.machine.display width height = false ∧
      p = keypadPanel s.emulator.keys (keypadArea s width height) := by
  by_cases hroom : tooSmall s.emulator.machine.display width height = false
  · rw [panels_of_room hroom] at hp
    simp only [List.mem_cons, List.not_mem_nil, or_false] at hp
    obtain rfl | rfl | rfl | rfl | rfl := hp
    · exact .inl (plain_displayPanel _)
    · exact .inl (plain_statusPanel _)
    · exact .inl (plain_registersPanel _)
    · exact .inr ⟨hroom, rfl⟩
    · exact .inl (plain_stackPanel _)
  · rw [panels, if_pos (Bool.not_eq_false _ ▸ hroom), List.mem_singleton] at hp
    rw [hp]
    exact .inl (plain_tooSmallPanel _)

theorem pictureCell_of_shown {x y : Nat} {key : Nibble}
    (hroom : tooSmall s.emulator.machine.display width height = false)
    (hshown : keyShownAt? (keypadArea s width height) x y = some key) :
    pictureCell (panels s width height) x y =
      keyCell s.emulator.keys key ((x - firstKeyColumn (keypadArea s width height)) % 3) := by
  have hinterior := interior_of_shown hshown
  have hmem : keypadPanel s.emulator.keys (keypadArea s width height) ∈ panels s width height := by
    simp [panels_of_room hroom, keypadArea]
  have hcell := pictureCell_of_disjoint (disjoint_panels hroom) hmem hinterior.contains
  rw [cell?_keypadPanel _ hinterior, hshown] at hcell
  exact (Option.some.inj hcell).symm

theorem style_pictureCell_iff {x y : Nat} :
    (pictureCell (panels s width height) x y).style = highlight ↔
      tooSmall s.emulator.machine.display width height = false ∧
        ∃ key, keyShownAt? (keypadArea s width height) x y = some key ∧
          s.emulator.keys.isDown key = true := by
  constructor
  · intro h
    obtain hblank | ⟨p, hp, hcell⟩ := pictureCell_cases (panels s width height) x y
    · rw [hblank] at h
      contradiction
    · obtain hplain | ⟨hroom, rfl⟩ := plain_or_keypad hp
      · have hbackground := hplain.background_eq hcell
        rw [h] at hbackground
        contradiction
      · exact ⟨hroom, (style_keypadPanel_iff hcell).mp h⟩
  · rintro ⟨hroom, key, hshown, hdown⟩
    rw [pictureCell_of_shown hroom hshown]
    exact style_keyCell_iff.mpr hdown

theorem cellAt?_draw {x y : Nat} (hx : x < width) (hy : y < height) :
    cellAt? (draw s width height) x y = some (pictureCell (panels s width height) x y) :=
  cellAt?_picture hx hy

theorem exists_cells_of_key
    (hroom : tooSmall s.emulator.machine.display width height = false)
    (hwidth : 14 ≤ (keypadArea s width height).width)
    (hheight : 6 ≤ (keypadArea s width height).height) (key : Nibble) :
    ∃ x y, ∀ part < 3, keyShownAt? (keypadArea s width height) (x + part) y = some key ∧
      cellAt? (draw s width height) (x + part) y = some (keyCell s.emulator.keys key part) := by
  obtain ⟨x, y, hshown⟩ := exists_shown hwidth hheight key
  obtain ⟨hright, hbottom⟩ : (keypadArea s width height).left +
      (keypadArea s width height).width ≤ width ∧ (keypadArea s width height).top +
      (keypadArea s width height).height ≤ height :=
    keypad_layout_le s.emulator.machine.display width height
  obtain ⟨-, hlast, -, hlow⟩ := interior_of_shown (hshown 2 (by omega)).1
  refine ⟨x, y, fun part hpart => ?_⟩
  obtain ⟨hkey, hplace⟩ := hshown part hpart
  rw [cellAt?_draw (by omega) (by omega), pictureCell_of_shown hroom hkey, hplace]
  exact ⟨hkey, rfl⟩

end Session

end Chip8.Screen

namespace Chip8.Session

open Screen (highlight keypadArea keyShownAt? keyCell tooSmall draw)

-- In every run a key is down exactly if it is held, which is when it has been
-- pressed since it was let go. A quit does nothing but quit, for good, and keys
-- outside the keypad do nothing. The screen highlights the keys that are down,
-- and where its panel has room for the whole keypad every key has its cells.
theorem keys_follow_last_press {c : Config} {unseeded : RandomKey} {font program : List UInt8}
    {e : Emulator} (hnew : Emulator.new c unseeded font program = .ok e) (events : List Event) :
    let s := (start e).after events
    (∀ key, (s.emulator.keys.isDown key = true ↔ s.isHeld key = true) ∧
      (s.isHeld key = true ↔ PressedLast key events)) ∧
    (s.quit = true ↔ ∃ event ∈ events, event.Quits) ∧
    (∀ event : Event, event.Quits → s.handle event = { s with quit := true }) ∧
    (∀ now event, ¬ Event.Quits (.key now event) → (∀ key, ¬ event.key.MapsTo key) →
      s.handle (.key now event) = s) ∧
    ∀ width height,
      let area := keypadArea s width height
      (∀ x y, x < width → y < height → ∃ cell, cellAt? (draw s width height) x y = some cell ∧
        (cell.style = highlight ↔ tooSmall s.emulator.machine.display width height = false ∧
          ∃ key, keyShownAt? area x y = some key ∧ s.emulator.keys.isDown key = true)) ∧
      (tooSmall s.emulator.machine.display width height = false → 14 ≤ area.width →
        6 ≤ area.height → ∀ key, ∃ x y, ∀ part < 3,
          keyShownAt? area (x + part) y = some key ∧
            cellAt? (draw s width height) (x + part) y =
              some (keyCell s.emulator.keys key part)) := by
  obtain ⟨-, -, -, -, rfl⟩ := Emulator.new_eq_ok_iff.mp hnew
  have hagree := keysAgree_after
    (keysAgree_start (e := Emulator.built c unseeded font program) rfl) events
  refine ⟨fun key => ⟨?_, ?_⟩, ?_, fun event => handle_of_quits, fun now event => handle_of_unmapped,
    fun width height => ⟨fun x y hx hy => ?_, ?_⟩⟩
  · rw [hagree key]
  · rw [isHeld_after, isHeld_start]
    simp
  · rw [quit_after]
    simp [start]
  · exact ⟨_, Screen.cellAt?_draw hx hy, Screen.style_pictureCell_iff⟩
  · exact fun hroom hwidth hheight key => Screen.exists_cells_of_key hroom hwidth hheight key

def smallMemory : Config where
  memorySize := 16
  programAddress := 0
  fontAddress := 0

def smallEmulator : Emulator := .built smallMemory (Vector.replicate 8 0) [] []

-- A capital Q and a 1 are pressed, the 1 expires, and Escape quits.
def typing : List Event :=
  [.key 0 ⟨.char 'Q', .press, false⟩, .key 1 ⟨.char '1', .press, false⟩, .update Timer.second,
    .expire (· = 1), .takeFrame, .key 2 ⟨.escape, .press, false⟩]

theorem keys_follow_last_press_typing :
    Emulator.new smallMemory (Vector.replicate 8 0) [] [] = .ok smallEmulator ∧
      ((start smallEmulator).after typing).quit = true ∧
      ((start smallEmulator).after typing).emulator.keys.isDown 4 = true ∧
      ∃ cell, cellAt? (draw ((start smallEmulator).after typing) 83 37) 69 15 = some cell ∧
        cell.style = highlight := by
  have hnew : Emulator.new smallMemory (Vector.replicate 8 0) [] [] = .ok smallEmulator :=
    Emulator.new_eq_ok_iff.mpr ⟨by decide, by decide, by decide, by decide, rfl⟩
  obtain ⟨hkeys, hquit, -, -, hscreen⟩ := keys_follow_last_press hnew typing
  have hpressed : PressedLast 4 typing := by
    refine ⟨[], _, _, rfl, ⟨mt Event.quits_key_iff.mp (by decide), ⟨'Q', rfl, by decide⟩, nofun⟩, ?_⟩
    simp [Event.LetsGo, Event.Quits]
  have hdown := (hkeys 4).1.mpr ((hkeys 4).2.mpr hpressed)
  have hroom : tooSmall ((start smallEmulator).after typing).emulator.machine.display 83 37 =
      false := by decide +kernel
  have hshown : keyShownAt? (keypadArea ((start smallEmulator).after typing) 83 37) 69 15 =
      some 4 := by decide +kernel
  have hquits : ∃ event ∈ typing, event.Quits :=
    ⟨.key 2 ⟨.escape, .press, false⟩, by simp [typing], .inl rfl⟩
  obtain ⟨cell, hcell, hstyle⟩ := (hscreen 83 37).1 69 15 (by decide) (by decide)
  exact ⟨hnew, hquit.mpr hquits, hdown, cell, hcell, hstyle.mpr ⟨hroom, 4, hshown, hdown⟩⟩

end Chip8.Session
