import Chip8.Proofs.Terminal.Picture
import Chip8.Proofs.Text.Numeral

namespace Chip8

-- The characters of a text that a row of so many cells shows.
def fitted (room : Nat) (text : List Char) : List Char :=
  (text ++ List.replicate room ' ').take room

section Fitted

variable {room : Nat}

@[simp] theorem length_fitted (text : List Char) : (fitted room text).length = room := by
  simp [fitted]

theorem getElem?_fitted (text : List Char) {column : Nat} (h : column < room) :
    (fitted room text)[column]? = some (text[column]?.getD ' ') := by
  rw [fitted, List.getElem?_take_of_lt h]
  by_cases hin : column < text.length
  · rw [List.getElem?_append_left hin, List.getElem?_eq_getElem hin]
    rfl
  · rw [List.getElem?_append_right (by omega), List.getElem?_replicate, if_pos (by omega),
      List.getElem?_eq_none (by omega)]
    rfl

theorem fitted_append {first : List Char} (h : first.length ≤ room) (rest : List Char) :
    fitted room (first ++ rest) = first ++ fitted (room - first.length) rest := by
  apply List.ext_getElem?
  intro column
  by_cases hroom : column < room
  · rw [getElem?_fitted _ hroom]
    by_cases hin : column < first.length
    · rw [List.getElem?_append_left hin, List.getElem?_append_left hin,
        List.getElem?_eq_getElem hin]
      rfl
    · rw [List.getElem?_append_right (by omega), List.getElem?_append_right (by omega),
        getElem?_fitted _ (by omega)]
  · rw [List.getElem?_eq_none (by simpa using hroom), List.getElem?_eq_none]
    rw [List.length_append, length_fitted]
    omega

theorem eq_length_of_getElem? {first rest : List Char} {c : Char} {column : Nat}
    (hfirst : c ∉ first) (hrest : c ∉ rest) (h : (first ++ c :: rest)[column]? = some c) :
    column = first.length := by
  rcases Nat.lt_trichotomy column first.length with hlt | heq | hgt
  · rw [List.getElem?_append_left hlt] at h
    exact absurd (List.mem_of_getElem? h) hfirst
  · exact heq
  · obtain ⟨later, hlater⟩ : ∃ later, column - first.length = later + 1 :=
      ⟨column - first.length - 1, by omega⟩
    rw [List.getElem?_append_right (by omega), hlater, List.getElem?_cons_succ] at h
    exact absurd (List.mem_of_getElem? h) hrest

-- A word that starts with a character of its own is shown whole only if there
-- is room up to its end.
theorem length_le_of_infix_fitted {first word rest : List Char} {c : Char} (hblank : c ≠ ' ')
    (hfirst : c ∉ first) (hword : c ∉ word) (hrest : c ∉ rest)
    (h : c :: word <:+: fitted room (first ++ (c :: word ++ rest))) :
    first.length + (c :: word).length ≤ room := by
  obtain ⟨before, after, hsplit⟩ := h
  have hlength := congrArg List.length hsplit
  simp only [List.length_append, List.length_cons, length_fitted] at hlength ⊢
  have hshown : (fitted room (first ++ (c :: word ++ rest)))[before.length]? = some c := by
    rw [← hsplit, List.append_assoc, List.getElem?_append_right (Nat.le_refl _), Nat.sub_self]
    rfl
  rw [getElem?_fitted _ (by omega)] at hshown
  have hplace : (first ++ c :: (word ++ rest))[before.length]? = some c := by
    cases hchar : (first ++ c :: (word ++ rest))[before.length]? with
    | none =>
      rw [List.cons_append, hchar] at hshown
      exact absurd (Option.some.inj hshown).symm hblank
    | some other =>
      rw [List.cons_append, hchar] at hshown
      exact hshown
  have hbefore := eq_length_of_getElem? hfirst (by simp [hword, hrest]) hplace
  omega

end Fitted

section Picture

def textInside (picture : Array Line) (area : Area) (row : Nat) : List Char :=
  ((picture[area.top + 1 + row]?.getD #[]).toList.drop (area.left + 1)).take (area.width - 2)
    |>.map Cell.symbol

variable {panels : List Panel} {p : Panel} {width height row : Nat} {text : Line}

theorem getElem?_textInside (area : Area) (hright : area.left + area.width ≤ width)
    (hbottom : area.top + area.height ≤ height) (hrow : row + 2 < area.height) {column : Nat}
    (hcolumn : column + 2 < area.width) :
    (textInside (picture panels width height) area row)[column]? =
      some (pictureCell panels (area.left + 1 + column) (area.top + 1 + row)).symbol := by
  have hheight : area.top + 1 + row < height := by omega
  have hwidth : area.left + 1 + column < width := by omega
  simp [textInside, picture, hheight, hwidth, List.getElem?_take, hcolumn]

theorem length_textInside (area : Area) (hright : area.left + area.width ≤ width)
    (hbottom : area.top + area.height ≤ height) (hrow : row + 2 < area.height) :
    (textInside (picture panels width height) area row).length = area.width - 2 := by
  have hheight : area.top + 1 + row < height := by omega
  have hwidth : min (area.width - 2) (width - (area.left + 1)) = area.width - 2 := by omega
  simp [textInside, picture, hheight, hwidth]

theorem symbol_text?_of_left (halign : p.alignment = .left) (hline : p.lines[row]? = some text)
    (column : Nat) :
    ((p.text? (column + 1) (row + 1)).getD { style := p.base }).symbol =
      text.symbols[column]?.getD ' ' := by
  have hindent : p.indent text = 0 := by rw [Panel.indent, halign]
  have htext : p.text? (column + 1) (row + 1) = text[column]? := by
    simp [Panel.text?, hline, hindent]
  rw [htext, Line.symbols, List.getElem?_map, Array.getElem?_toList]
  cases text[column]? <;> rfl

theorem textInside_of_left (hpanels : panels.Pairwise fun p q => p.area.Disjoint q.area)
    (hp : p ∈ panels) (halign : p.alignment = .left) (hline : p.lines[row]? = some text)
    (hright : p.area.left + p.area.width ≤ width) (hbottom : p.area.top + p.area.height ≤ height)
    (hrow : row + 2 < p.area.height) :
    textInside (picture panels width height) p.area row =
      fitted (p.area.width - 2) text.symbols := by
  apply List.ext_getElem?
  intro column
  by_cases hcolumn : column + 2 < p.area.width
  · have hinterior : p.area.Interior (p.area.left + 1 + column) (p.area.top + 1 + row) := by
      unfold Area.Interior
      omega
    have hcell := pictureCell_of_disjoint hpanels hp hinterior.contains
    have hx : p.area.left + 1 + column - p.area.left = column + 1 := by omega
    have hy : p.area.top + 1 + row - p.area.top = row + 1 := by omega
    rw [Panel.cell?_of_interior hinterior, hx, hy] at hcell
    rw [getElem?_textInside p.area hright hbottom hrow hcolumn, ← Option.some.inj hcell,
      symbol_text?_of_left halign hline, getElem?_fitted _ (by omega)]
  · rw [List.getElem?_eq_none, List.getElem?_eq_none]
    · rw [length_fitted]
      omega
    · rw [length_textInside p.area hright hbottom hrow]
      omega

end Picture

section Reading

-- The hexadecimal number behind the first place of a text where a label stands.
def readAfter (label : List Char) : List Char → Option Nat
  | [] => none
  | c :: rest =>
    if label <+: c :: rest then
      Text.natural? 16 (((c :: rest).drop label.length).takeWhile (· ≠ ' '))
    else readAfter label rest

variable {c : Char} {label first rest : List Char}

theorem readAfter_label (hlabel : label ≠ []) {value width : Nat}
    (hrest : ∀ c ∈ rest.head?, c = ' ') :
    readAfter label (label ++ ((Text.hex width value).toList ++ rest)) = some value := by
  have hword : ∀ c ∈ (Text.hex width value).toList, c ≠ ' ' := by
    intro c hc
    obtain ⟨d, hd, rfl⟩ := Text.mem_hex hc
    exact Text.digitChar_ne_blank d hd
  cases label with
  | nil => contradiction
  | cons c label =>
    rw [List.cons_append, readAfter, ← List.cons_append, if_pos (List.prefix_append _ _),
      List.drop_left, Text.takeWhile_word hword hrest, Text.natural?_hex]

theorem readAfter_cons (h : ¬ label <+: c :: rest) :
    readAfter label (c :: rest) = readAfter label rest :=
  if_neg h

theorem readAfter_append (h : c ∉ first) :
    readAfter (c :: label) (first ++ rest) = readAfter (c :: label) rest := by
  induction first with
  | nil => rfl
  | cons other first ih =>
    rw [List.mem_cons, not_or] at h
    rw [List.cons_append, readAfter_cons, ih h.2]
    rw [List.cons_prefix_cons]
    exact fun hprefix => h.1 hprefix.1

end Reading

end Chip8
