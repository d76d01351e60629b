import Chip8.Terminal.Screen

namespace Chip8

namespace Area

def Contains (a : Area) (x y : Nat) : Prop :=
  a.left ≤ x ∧ x < a.left + a.width ∧ a.top ≤ y ∧ y < a.top + a.height

def Interior (a : Area) (x y : Nat) : Prop :=
  a.left < x ∧ x + 1 < a.left + a.width ∧ a.top < y ∧ y + 1 < a.top + a.height

instance (a : Area) (x y : Nat) : Decidable (a.Interior x y) :=
  inferInstanceAs (Decidable (_ ∧ _ ∧ _ ∧ _))

def Disjoint (a b : Area) : Prop := ∀ x y, a.Contains x y → ¬ b.Contains x y

theorem disjoint_of_left {a b : Area} (h : a.left + a.width ≤ b.left) : a.Disjoint b := by
  rintro x y ⟨-, ha, -, -⟩ ⟨hb, -, -, -⟩
  omega

theorem disjoint_of_above {a b : Area} (h : a.top + a.height ≤ b.top) : a.Disjoint b := by
  rintro x y ⟨-, -, -, ha⟩ ⟨-, -, hb, -⟩
  omega

theorem Interior.contains {a : Area} {x y : Nat} (h : a.Interior x y) : a.Contains x y := by
  unfold Interior at h
  unfold Contains
  omega

end Area

namespace Line

def symbols (line : Line) : List Char := line.toList.map Cell.symbol

@[simp] theorem symbols_ofString (text : String) (style : Style) :
    (ofString text style).symbols = text.toList := by
  simp [symbols, ofString, Function.comp_def]

theorem style_of_mem_ofString {text : String} {style : Style} {cell : Cell}
    (h : cell ∈ ofString text style) : cell.style = style := by
  obtain ⟨symbol, -, rfl⟩ := List.mem_map.mp (List.mem_toArray.mp h)
  rfl

theorem style_of_mem_fit {room left : Nat} {text : List Text.Cluster} {cell : Cell}
    (h : cell ∈ fit room left text) : cell.style = {} := by
  fun_induction fit room left text with
  | case1 => contradiction
  | case2 left c rest hroom ih => exact ih h
  | case3 => contradiction
  | case4 left c rest hroom hleft ih =>
    rcases List.mem_append.mp h with hcells | hrest
    · unfold cells at hcells
      split at hcells
      · contradiction
      · rcases List.mem_cons.mp hcells with rfl | hblank
        · rfl
        · rw [List.eq_of_mem_replicate hblank]
    · exact ih hrest

theorem style_of_mem_ofText {room : Nat} {text : String} {cell : Cell}
    (h : cell ∈ ofText room text) : cell.style = {} :=
  style_of_mem_fit (List.mem_toArray.mp h)

end Line

namespace Panel

variable {p : Panel} {x y : Nat}

theorem cell?_of_contains (h : p.area.Contains x y) :
    p.cell? x y = some (p.inside (x - p.area.left) (y - p.area.top)) :=
  if_pos h

theorem cell?_of_not_contains (h : ¬ p.area.Contains x y) : p.cell? x y = none := if_neg h

theorem cell?_of_interior (h : p.area.Interior x y) :
    p.cell? x y =
      some ((p.text? (x - p.area.left) (y - p.area.top)).getD { style := p.base }) := by
  obtain ⟨hleft, hright, htop, hbottom⟩ := h
  have htitle : p.title? (x - p.area.left) (y - p.area.top) = none := by
    unfold title?
    rw [if_neg (by omega)]
  have hborder : p.border? (x - p.area.left) (y - p.area.top) = none := by
    unfold border?
    simp only
    repeat rw [if_neg (by omega)]
  rw [cell?_of_contains ⟨by omega, by omega, by omega, by omega⟩, inside, htitle, hborder]

theorem border?_isSome {column row : Nat} (h : column = 0 ∨ column + 1 = p.area.width ∨
    row = 0 ∨ row + 1 = p.area.height) : (p.border? column row).isSome = true := by
  unfold border?
  simp only
  grind

theorem style_of_not_interior {cell : Cell} (hcell : p.cell? x y = some cell)
    (h : ¬ p.area.Interior x y) : cell.style = p.base := by
  by_cases hcontains : p.area.Contains x y
  · rw [cell?_of_contains hcontains] at hcell
    obtain ⟨symbol, hborder⟩ : ∃ symbol,
        p.border? (x - p.area.left) (y - p.area.top) = some symbol := by
      apply Option.isSome_iff_exists.mp
      apply border?_isSome
      unfold Area.Contains at hcontains
      unfold Area.Interior at h
      omega
    rw [← Option.some.inj hcell, inside, hborder]
    split
    · rfl
    · rfl
    · contradiction
  · rw [cell?_of_not_contains hcontains] at hcell
    contradiction

theorem mem_of_text? {column row : Nat} {cell : Cell} (h : p.text? column row = some cell) :
    ∃ line ∈ p.lines, cell ∈ line := by
  obtain ⟨line, hline, hcell⟩ := Option.bind_eq_some_iff.mp h
  refine ⟨line, Array.mem_of_getElem? hline, ?_⟩
  dsimp only at hcell
  split at hcell
  · exact Array.mem_of_getElem? hcell
  · contradiction

theorem style_cell? {cell : Cell} (hcell : p.cell? x y = some cell) :
    cell.style = p.base ∨ ∃ line ∈ p.lines, cell ∈ line := by
  by_cases h : p.area.Interior x y
  · rw [cell?_of_interior h] at hcell
    cases htext : p.text? (x - p.area.left) (y - p.area.top) with
    | none =>
      rw [htext] at hcell
      exact .inl (Option.some.inj hcell ▸ rfl)
    | some text =>
      rw [htext] at hcell
      exact .inr (Option.some.inj hcell ▸ mem_of_text? htext)
  · exact .inl (style_of_not_interior hcell h)

structure Plain (p : Panel) : Prop where
  base : p.base.background = .reset
  text : ∀ line ∈ p.lines, ∀ cell ∈ line, cell.style.background = .reset

theorem Plain.background_eq (h : p.Plain) {cell : Cell} (hcell : p.cell? x y = some cell) :
    cell.style.background = .reset := by
  obtain hbase | ⟨line, hline, hmem⟩ := style_cell? hcell
  · rw [hbase, h.base]
  · exact h.text line hline cell hmem

end Panel

def cellAt? (picture : Array Line) (x y : Nat) : Option Cell :=
  picture[y]?.bind fun row => row[x]?

section Picture

variable {panels : List Panel} {p : Panel} {x y : Nat}

theorem cellAt?_picture {width height : Nat} (hx : x < width) (hy : y < height) :
    cellAt? (picture panels width height) x y = some (pictureCell panels x y) := by
  simp [cellAt?, picture, hx, hy]

theorem pictureCell_of_disjoint (hpanels : panels.Pairwise fun p q => p.area.Disjoint q.area)
    (hp : p ∈ panels) (h : p.area.Contains x y) :
    p.cell? x y = some (pictureCell panels x y) := by
  have hfind : (panels.findSome? fun q => q.cell? x y) = p.cell? x y := by
    rw [Panel.cell?_of_contains h]
    induction panels with
    | nil => simp at hp
    | cons q rest ih =>
      obtain ⟨hfirst, hrest⟩ := List.pairwise_cons.mp hpanels
      rcases List.mem_cons.mp hp with rfl | hmem
      · rw [List.findSome?_cons, Panel.cell?_of_contains h]
      · have hq : ¬ q.area.Contains x y := fun hq => hfirst p hmem x y hq h
        rw [List.findSome?_cons, Panel.cell?_of_not_contains hq]
        exact ih hrest hmem
  rw [pictureCell, hfind, Panel.cell?_of_contains h, Option.getD_some]

theorem pictureCell_cases (panels : List Panel) (x y : Nat) :
    pictureCell panels x y = {} ∨ ∃ p ∈ panels, p.cell? x y = some (pictureCell panels x y) := by
  unfold pictureCell
  cases hfind : panels.findSome? fun p => p.cell? x y with
  | none => exact .inl rfl
  | some cell =>
    obtain ⟨p, hp, hcell⟩ := List.exists_of_findSome?_eq_some hfind
    exact .inr ⟨p, hp, hcell⟩

end Picture

namespace Screen

theorem share_add_le (room first second : Nat) :
    (share room first second).1 + (share room first second).2 ≤ room := by
  unfold share
  split
  · assumption
  · simp only
    omega

theorem keypad_layout_le (d : Display) (width height : Nat) :
    let area := (layout d width height).keypad
    area.left + area.width ≤ width ∧ area.top + area.height ≤ height := by
  have hcolumns := share_add_le width (displayWidth d).toNat sideWidth.toNat
  have hrows := share_add_le (height - 3) 13 6
  exact ⟨hcolumns, Nat.le_trans hrows (Nat.sub_le height 3)⟩

-- The left side ends where the right side starts, and on each side a panel ends
-- where the next one starts.
theorem disjoint_layout (d : Display) (width height : Nat) :
    let areas := layout d width height
    [areas.display, areas.status, areas.registers, areas.keypad, areas.stack].Pairwise
      Area.Disjoint := by
  unfold layout
  generalize share width _ _ = columns
  generalize share height _ _ = rows
  generalize share (height - 3) 13 6 = side
  simp only [List.pairwise_cons, List.mem_cons, List.not_mem_nil, or_false, forall_eq_or_imp,
    forall_eq]
  have hbeside (top height top' height' : Nat) :
      Area.Disjoint ⟨0, top, columns.1, height⟩ ⟨columns.1, top', columns.2, height'⟩ :=
    Area.disjoint_of_left (by simp)
  have hleft : Area.Disjoint ⟨0, 0, columns.1, rows.1⟩ ⟨0, rows.1, columns.1, rows.2⟩ :=
    Area.disjoint_of_above (by simp)
  have hkeypad : Area.Disjoint ⟨columns.1, 0, columns.2, side.1⟩
      ⟨columns.1, side.1, columns.2, side.2⟩ :=
    Area.disjoint_of_above (by simp)
  have hstack (top rows : Nat) (h : top + rows ≤ side.1 + side.2) :
      Area.Disjoint ⟨columns.1, top, columns.2, rows⟩
        ⟨columns.1, side.1 + side.2, columns.2, height - (side.1 + side.2)⟩ :=
    Area.disjoint_of_above h
  refine ⟨⟨hleft, ?_, ?_, ?_⟩, ⟨?_, ?_, ?_⟩, ⟨hkeypad, hstack 0 side.1 (by omega)⟩,
    hstack side.1 side.2 (by omega), nofun, .nil⟩
  all_goals apply hbeside

theorem panels_of_room {s : Session} {width height : Nat}
    (h : tooSmall s.emulator.machine.display width height = false) :
    panels s width height =
      let machine := s.emulator.machine
      let areas := layout machine.display width height
      [displayPanel s.frame areas.display, statusPanel s.status areas.status,
        registersPanel machine areas.registers, keypadPanel s.emulator.keys areas.keypad,
        stackPanel machine.stack areas.stack] := by
  unfold panels
  simp only [h, Bool.false_eq_true, if_false]

theorem disjoint_panels {s : Session} {width height : Nat}
    (h : tooSmall s.emulator.machine.display width height = false) :
    (panels s width height).Pairwise fun p q => p.area.Disjoint q.area := by
  rw [panels_of_room h]
  exact List.pairwise_map.mp (disjoint_layout s.emulator.machine.display width height)

end Screen

end Chip8
