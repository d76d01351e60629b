import Chip8.Proofs.Terminal.Highlight
import Chip8.Proofs.Terminal.Legible
import Chip8.Proofs.Terminal.Room

namespace Chip8.Screen

-- What the panel shows a value of.
inductive Field where
  | counter
  | index
  | delay
  | sound
  | register (x : Nibble)
  deriving DecidableEq

namespace Field

def value (m : Machine) : Field → Nat
  | counter => m.registers.pc.toNat
  | index => m.registers.i.toNat
  | delay => m.delay.value.toNat
  | sound => m.sound.toNat
  | register x => (m.get x).toNat

def label : Field → List Char
  | counter => ['P', 'C', ':', ' ']
  | index => ['I', ':', ' ']
  | delay => ['D', 'T', ':', ' ']
  | sound => ['S', 'T', ':', ' ']
  | register x => ['V', Text.digitChar x.val, ':', ' ']

def minDigits : Field → Nat
  | counter | index => 3
  | delay | sound | register _ => 2

def digits (m : Machine) (f : Field) : List Char := (Text.hex f.minDigits (f.value m)).toList

def text (m : Machine) (f : Field) : List Char := f.label ++ f.digits m

-- Two fields share a line, with a gap between them.
def row : Field → Nat
  | counter | index => 0
  | delay | sound => 1
  | register x => 3 + x.val % 8

def first : Field → Field
  | counter | index => counter
  | delay | sound => delay
  | register x => register ⟨x.val % 8, by omega⟩

def second : Field → Field
  | counter | index => index
  | delay | sound => sound
  | register x => register (⟨x.val % 8, by omega⟩ + 8)

def gap : Field → List Char
  | counter | index => [' ', ' ']
  | _ => [' ', ' ', ' ']

def line (m : Machine) (f : Field) : List Char :=
  f.first.text m ++ (f.gap ++ f.second.text m)

section Line

variable (m : Machine)

theorem eq_first_or_eq_second (f : Field) : f = f.first ∨ f = f.second := by
  have hregister : ∀ x : Nibble, x = ⟨x.val % 8, by omega⟩ ∨ x = ⟨x.val % 8, by omega⟩ + 8 := by
    decide
  cases f with
  | counter => exact .inl rfl
  | index => exact .inr rfl
  | delay => exact .inl rfl
  | sound => exact .inr rfl
  | register x =>
    rcases hregister x with h | h
    · exact .inl (congrArg register h)
    · exact .inr (congrArg register h)

theorem toList_registerPair (x : Nibble) :
    (registerPair m.registers x).toList =
      (register x).text m ++ ([' ', ' ', ' '] ++ (register (x + 8)).text m) := by
  simp [registerPair, text, label, digits, value, minDigits, Machine.get,
    Text.toList_hex_one (Nibble.val_lt _)]

theorem registerTexts_row (f : Field) :
    ∃ shown, (registerTexts m)[f.row]? = some shown ∧ shown.toList = f.line m := by
  cases f with
  | register x =>
    have hplace : (Nibble.upTo 7)[x.val % 8]? = some ⟨x.val % 8, by omega⟩ := by
      revert x
      decide
    refine ⟨registerPair m.registers ⟨x.val % 8, by omega⟩, ?_, toList_registerPair m _⟩
    rw [registerTexts, row, List.getElem?_append_right (by simp), List.getElem?_map]
    simp [hplace]
  | _ =>
    exact ⟨_, rfl, by simp [line, text, first, second, gap, label, digits, value, minDigits]⟩

theorem minDigits_le (f : Field) : f.minDigits ≤ (f.digits m).length := by
  rw [digits, Text.length_hex]
  exact Nat.le_max_left _ _

theorem length_digits_le_iff {f : Field} {k : Nat} (hk : f.minDigits ≤ k) :
    (f.digits m).length ≤ k ↔ f.value m < 16 ^ k := by
  have hpos : 0 < f.minDigits := by cases f <;> simp [minDigits]
  exact Text.length_hex_le_iff (by omega) hk

theorem not_mem_digits {c : Char} (h : ∀ d < 16, Text.digitChar d ≠ c) (f : Field) :
    c ∉ f.digits m := by
  intro hc
  obtain ⟨d, hd, hchar⟩ := Text.mem_hex hc
  exact h d hd hchar.symm

end Line

section Reach

variable (m : Machine)

-- The cells of the line up to the last digit of the value.
def reach (f : Field) : Nat := if f = f.first then (f.text m).length else (f.line m).length

-- The value leaves the values of its line inside the border.
def Fits : Field → Prop
  | index => m.registers.pc.toNat < 0x1000 ∧ m.registers.i.toNat < 0x1000
  | sound => m.delay.value.toNat < 0x100
  | _ => True

theorem length_text (f : Field) : (f.text m).length = f.label.length + (f.digits m).length := by
  rw [text, List.length_append]

theorem length_line (f : Field) :
    (f.line m).length = (f.first.text m).length + (f.gap.length + (f.second.text m).length) := by
  rw [line, List.length_append, List.length_append]

theorem length_digits_register (x : Nibble) : ((register x).digits m).length = 2 := by
  have hmin := minDigits_le m (register x)
  have hmax := (length_digits_le_iff m (f := register x) (Nat.le_refl 2)).mpr (m.get x).toNat_lt
  exact Nat.le_antisymm hmax hmin

theorem length_digits_sound : (sound.digits m).length = 2 := by
  have hmin := minDigits_le m sound
  have hmax := (length_digits_le_iff m (f := sound) (Nat.le_refl 2)).mpr m.sound.toNat_lt
  exact Nat.le_antisymm hmax hmin

theorem reach_counter : counter.reach m = 4 + (counter.digits m).length := length_text m counter

theorem reach_delay : delay.reach m = 4 + (delay.digits m).length := length_text m delay

theorem reach_index :
    index.reach m = 9 + (counter.digits m).length + (index.digits m).length := by
  show (index.line m).length = _
  rw [length_line, length_text, length_text]
  show 4 + (counter.digits m).length + (2 + (3 + (index.digits m).length)) = _
  omega

theorem reach_sound : sound.reach m = 13 + (delay.digits m).length := by
  show (sound.line m).length = _
  rw [length_line, length_text, length_text]
  show 4 + (delay.digits m).length + (3 + (4 + (sound.digits m).length)) = _
  rw [length_digits_sound]
  omega

theorem length_line_register (x : Nibble) : ((register x).line m).length = 15 := by
  rw [length_line, length_text, length_text]
  show 4 + ((register _).digits m).length + (3 + (4 + ((register _).digits m).length)) = 15
  rw [length_digits_register, length_digits_register]

theorem reach_register_le (x : Nibble) : (register x).reach m ≤ 15 := by
  unfold reach
  split
  · rw [length_text, length_digits_register]
    exact Nat.le_add_left 6 9
  · exact Nat.le_of_eq (length_line_register m x)

-- Fifteen cells are enough for everything but a long address before the index
-- or a long delay count before the sound count.
theorem reach_le_iff (f : Field) : f.reach m ≤ 15 ↔ f.Fits m := by
  have hcounter := minDigits_le m counter
  have hindex := minDigits_le m index
  have hdelay := minDigits_le m delay
  cases f with
  | counter =>
    have hlength := (length_digits_le_iff m (f := counter) (k := 4) (by decide)).mpr
      m.registers.pc.toNat_lt
    rw [reach_counter]
    exact ⟨fun _ => trivial, fun _ => by omega⟩
  | index =>
    have hshort := length_digits_le_iff m (f := counter) (Nat.le_refl 3)
    have hshort' := length_digits_le_iff m (f := index) (Nat.le_refl 3)
    rw [reach_index]
    show _ ↔ counter.value m < 16 ^ 3 ∧ index.value m < 16 ^ 3
    rw [← hshort, ← hshort']
    simp only [minDigits] at hcounter hindex
    omega
  | delay =>
    have hlength := (length_digits_le_iff m (f := delay) (k := 8) (by decide)).mpr
      m.delay.value.toNat_lt
    rw [reach_delay]
    exact ⟨fun _ => trivial, fun _ => by omega⟩
  | sound =>
    have hshort := length_digits_le_iff m (f := delay) (Nat.le_refl 2)
    rw [reach_sound]
    show _ ↔ delay.value m < 16 ^ 2
    rw [← hshort]
    simp only [minDigits] at hdelay
    omega
  | register x => exact ⟨fun _ => trivial, fun _ => reach_register_le m x⟩

theorem length_line_le (h : ∀ f : Field, f.Fits m) (f : Field) : (f.line m).length ≤ 15 := by
  cases f with
  | counter | index => exact (reach_le_iff m index).mpr (h index)
  | delay | sound => exact (reach_le_iff m sound).mpr (h sound)
  | register x => exact Nat.le_of_eq (length_line_register m x)

end Reach

section Shown

variable {m : Machine} {room : Nat} {f : Field}

theorem text_infix_of_reach_le (h : f.reach m ≤ room) :
    f.text m <:+: fitted room (f.line m) := by
  unfold reach at h
  split at h
  · rename_i hfirst
    rw [line, ← hfirst, fitted_append h]
    exact (List.prefix_append _ _).isInfix
  · rename_i hfirst
    have hsecond := (eq_first_or_eq_second f).resolve_left hfirst
    have hline : f.line m = f.line m ++ [] := (List.append_nil _).symm
    rw [hline, fitted_append h]
    generalize fitted (room - (f.line m).length) [] = blanks
    rw [line, ← hsecond]
    exact ⟨f.first.text m ++ f.gap, blanks, by simp only [List.append_assoc]⟩

theorem reach_le_length_line (m : Machine) (f : Field) : f.reach m ≤ (f.line m).length := by
  unfold reach
  split
  · rename_i hfirst
    rw [length_line, ← hfirst]
    exact Nat.le_add_right _ _
  · exact Nat.le_refl _

-- The second value of a line stands whole only if the line has room up to its
-- end, as the first character of its label occurs nowhere else.
theorem reach_le_of_infix {c : Char} {name : List Char} (hsecond : f.second = f)
    (hlabel : f.label = c :: name) (hblank : c ≠ ' ') (hdigit : ∀ d < 16, Text.digitChar d ≠ c)
    (hfirst : c ∉ f.first.label) (hgap : c ∉ f.gap) (hname : c ∉ name)
    (h : f.text m <:+: fitted room (f.line m)) : f.reach m ≤ room := by
  have htext : f.text m = c :: (name ++ f.digits m) := by rw [text, hlabel, List.cons_append]
  have hline : f.line m =
      (f.first.text m ++ f.gap) ++ (c :: (name ++ f.digits m) ++ []) := by
    rw [line, hsecond, htext, List.append_nil, List.append_assoc]
  have hbefore : c ∉ f.first.text m ++ f.gap := by
    simp [text, hfirst, hgap, not_mem_digits m hdigit]
  have hafter : c ∉ name ++ f.digits m := by
    simp [hname, not_mem_digits m hdigit]
  rw [htext, hline] at h
  have hle := length_le_of_infix_fitted hblank hbefore hafter List.not_mem_nil h
  refine Nat.le_trans (reach_le_length_line m f) ?_
  rw [hline, List.append_nil, List.length_append]
  exact hle

theorem reach_le_of_index_infix (h : index.text m <:+: fitted room (index.line m)) :
    index.reach m ≤ room :=
  reach_le_of_infix rfl rfl (by decide) (by decide) (by decide) (by decide) (by decide) h

theorem reach_le_of_sound_infix (h : sound.text m <:+: fitted room (sound.line m)) :
    sound.reach m ≤ room :=
  reach_le_of_infix rfl rfl (by decide) (by decide) (by decide) (by decide) (by decide) h

theorem readAfter_second (f : Field) (rest : List Char) :
    readAfter f.second.label (f.first.text m ++ (f.gap ++ rest)) =
      readAfter f.second.label rest := by
  have hdigit : ∀ d < 16, Text.digitChar d ≠ 'I' ∧ Text.digitChar d ≠ 'S' ∧
      Text.digitChar d ≠ 'V' := by decide
  have hindex := not_mem_digits m (fun d hd => (hdigit d hd).1) counter
  have hsound := not_mem_digits m (fun d hd => (hdigit d hd).2.1) delay
  rw [← List.append_assoc]
  cases f with
  | counter | index =>
    apply readAfter_append
    simp [text, label, first, gap, hindex]
  | delay | sound =>
    apply readAfter_append
    simp [text, label, first, gap, hsound]
  | register x =>
    have hregister := not_mem_digits m (fun d hd => (hdigit d hd).2.2)
      (register ⟨x.val % 8, by omega⟩)
    have hname : ∀ x : Nibble, Text.digitChar (x.val % 8) ≠ 'V' ∧
        Text.digitChar ((⟨x.val % 8, by omega⟩ : Nibble) + 8).val ≠ Text.digitChar (x.val % 8) := by
      decide
    -- both labels start alike, and differ in the number of the register
    show readAfter _ ('V' :: ((Text.digitChar (x.val % 8) :: ':' :: ' ' ::
      (register ⟨x.val % 8, by omega⟩).digits m ++ [' ', ' ', ' ']) ++ rest)) = _
    rw [readAfter_cons]
    · apply readAfter_append
      simp [hregister, (hname x).1.symm]
    · simp [second, label, (hname x).2]

theorem readAfter_of_line_le (h : (f.line m).length ≤ room) :
    readAfter f.label (fitted room (f.line m)) = some (f.value m) := by
  have hgap : ∀ rest c, c ∈ (f.gap ++ rest).head? → c = ' ' := by
    cases f <;> simp [gap]
  have hlabel : f.label ≠ [] := by cases f <;> simp [label]
  have hblank : ∀ c ∈ (fitted (room - (f.line m).length) []).head?, c = ' ' := by
    intro c hc
    exact List.eq_of_mem_replicate (List.mem_of_mem_take (List.mem_of_mem_head? hc))
  have hline : f.line m = f.line m ++ [] := (List.append_nil _).symm
  rw [hline, fitted_append h]
  generalize fitted (room - (f.line m).length) [] = blanks at hblank
  rw [line, List.append_assoc, List.append_assoc]
  rcases eq_first_or_eq_second f with hfirst | hsecond
  · rw [← hfirst, text, List.append_assoc, digits]
    exact readAfter_label hlabel (hgap _)
  · have hskip := readAfter_second (m := m) f (f.second.text m ++ blanks)
    rw [← hsecond] at hskip ⊢
    rw [hskip, text, List.append_assoc, digits]
    exact readAfter_label hlabel hblank

end Shown

end Field

section Registers

variable {s : Session} {width height : Nat}

def registersArea (s : Session) (width height : Nat) : Area :=
  (layout s.emulator.machine.display width height).registers

def rowShown (s : Session) (width height : Nat) (f : Field) : List Char :=
  textInside (draw s width height) (registersArea s width height) f.row

-- The label and all digits of the value stand in its row.
def ShowsWhole (s : Session) (width height : Nat) (f : Field) : Prop :=
  f.text s.emulator.machine <:+: rowShown s width height f

def readBack (s : Session) (width height : Nat) (f : Field) : Option Nat :=
  readAfter f.label (rowShown s width height f)

theorem share_snd_le (room first second : Nat) : (share room first second).2 ≤ second := by
  unfold share
  split
  · exact Nat.le_refl second
  · simp only
    omega

theorem registers_layout_bounds (d : Display) (width : Nat) (hrows : 22 ≤ height) :
    let area := (layout d width height).registers
    area.left + area.width ≤ width ∧ area.top + area.height ≤ height ∧ area.height = 13 ∧
      area.width ≤ 17 := by
  have hcolumns := share_add_le width (displayWidth d).toNat sideWidth.toNat
  have hside := share_snd_le width (displayWidth d).toNat sideWidth.toNat
  have hheight : (share (height - 3) 13 6).1 = 13 := by rw [share_of_le (by omega)]
  refine ⟨hcolumns, ?_, hheight, hside⟩
  show 0 + (share (height - 3) 13 6).1 ≤ height
  omega

theorem registers_layout_width {d : Display} (hwidth : d.width + 19 ≤ width)
    (hcolumns : width < 65536) : (layout d width height).registers.width = 17 := by
  have hwide : (displayWidth d).toNat = d.width + 2 := by
    rw [toNat_displayWidth]
    omega
  have hside : sideWidth.toNat = 17 := rfl
  show (share width (displayWidth d).toNat sideWidth.toNat).2 = 17
  rw [hwide, hside, share_of_le (by omega)]

theorem rowShown_eq (hroom : tooSmall s.emulator.machine.display width height = false)
    (hrows : 22 ≤ height) (f : Field) :
    rowShown s width height f =
      fitted ((registersArea s width height).width - 2) (f.line s.emulator.machine) := by
  obtain ⟨hright, hbottom, hheight, -⟩ :=
    registers_layout_bounds s.emulator.machine.display width hrows
  obtain ⟨shown, hshown, hline⟩ := f.registerTexts_row s.emulator.machine
  have hmem : registersPanel s.emulator.machine (registersArea s width height) ∈
      panels s width height := by
    simp [panels_of_room hroom, registersArea]
  have hrow : f.row ≤ 10 := by
    cases f with
    | register x =>
      show 3 + x.val % 8 ≤ 10
      omega
    | _ => simp [Field.row]
  have htext : (registersPanel s.emulator.machine (registersArea s width height)).lines[f.row]? =
      some (Line.ofString shown) := by
    simp [registersPanel, hshown]
  have hinside := textInside_of_left (disjoint_panels hroom) hmem rfl htext hright hbottom
    (by show f.row + 2 < (layout s.emulator.machine.display width height).registers.height; omega)
  rw [Line.symbols_ofString, hline] at hinside
  exact hinside

theorem showsWhole_iff_fits (hroom : tooSmall s.emulator.machine.display width height = false)
    (hrows : 22 ≤ height) (hwidth : (registersArea s width height).width = 17) (f : Field) :
    ShowsWhole s width height f ↔ f.Fits s.emulator.machine := by
  rw [ShowsWhole, rowShown_eq hroom hrows, hwidth, ← Field.reach_le_iff]
  refine ⟨fun h => ?_, Field.text_infix_of_reach_le⟩
  cases f with
  | index => exact Field.reach_le_of_index_infix h
  | sound => exact Field.reach_le_of_sound_infix h
  | _ => exact (Field.reach_le_iff _ _).mpr trivial

theorem width_of_showsWhole (hroom : tooSmall s.emulator.machine.display width height = false)
    (hrows : 22 ≤ height) (h : ShowsWhole s width height .sound) :
    (registersArea s width height).width = 17 := by
  obtain ⟨-, -, -, hle⟩ :=
    registers_layout_bounds s.emulator.machine.display width hrows
  rw [ShowsWhole, rowShown_eq hroom hrows] at h
  have hreach := Field.reach_le_of_sound_infix h
  have hdelay := Field.minDigits_le s.emulator.machine .delay
  rw [Field.reach_sound] at hreach
  simp only [Field.minDigits] at hdelay
  change (registersArea s width height).width ≤ 17 at hle
  omega

theorem forall_fits_iff {m : Machine} :
    (∀ f : Field, f.Fits m) ↔
      m.registers.pc.toNat < 0x1000 ∧ m.registers.i.toNat < 0x1000 ∧
        m.delay.value.toNat < 0x100 := by
  constructor
  · intro h
    obtain ⟨hcounter, hindex⟩ := h .index
    exact ⟨hcounter, hindex, h .sound⟩
  · rintro ⟨hcounter, hindex, hdelay⟩ f
    cases f with
    | index => exact ⟨hcounter, hindex⟩
    | sound => exact hdelay
    | _ => trivial

-- Where the screen shows its panels, all values stand whole exactly if theirs has
-- its full width, the program counter and the index have three digits, and the
-- delay count two; and then each of them is read back. In a panel of full width
-- only the index and the sound count are ever cut. A terminal that has room for
-- the display and the other panels gives it that width.
theorem registers_shown_whole_iff {s : Session} {width height : Nat}
    (hroom : tooSmall s.emulator.machine.display width height = false) (hrows : 22 ≤ height) :
    let m := s.emulator.machine
    let area := registersArea s width height
    ((∀ f, ShowsWhole s width height f) ↔
      area.width = 17 ∧ m.registers.pc.toNat < 0x1000 ∧ m.registers.i.toNat < 0x1000 ∧
        m.delay.value.toNat < 0x100) ∧
    ((∀ f, ShowsWhole s width height f) →
      ∀ f : Field, readBack s width height f = some (f.value m)) ∧
    (area.width = 17 → ∀ f : Field, ShowsWhole s width height f ↔ f.Fits m) ∧
    (m.display.width + 19 ≤ width → width < 65536 → area.width = 17) := by
  intro m area
  have hfits (hwidth : area.width = 17) (f : Field) : ShowsWhole s width height f ↔ f.Fits m :=
    showsWhole_iff_fits hroom hrows hwidth f
  have hall : (∀ f, ShowsWhole s width height f) ↔ area.width = 17 ∧ ∀ f : Field, f.Fits m := by
    constructor
    · intro h
      have hwidth : area.width = 17 := width_of_showsWhole hroom hrows (h .sound)
      exact ⟨hwidth, fun f => (hfits hwidth f).mp (h f)⟩
    · rintro ⟨hwidth, h⟩ f
      exact (hfits hwidth f).mpr (h f)
  refine ⟨?_, ?_, hfits, registers_layout_width⟩
  · rw [hall, forall_fits_iff]
  · intro h f
    obtain ⟨hwidth, hshort⟩ := hall.mp h
    have hline := Field.length_line_le m hshort f
    rw [readBack, rowShown_eq hroom hrows]
    change readAfter f.label (fitted (area.width - 2) (f.line m)) = some (f.value m)
    rw [hwidth]
    exact Field.readAfter_of_line_le hline

theorem registers_shown_whole_iff_start :
    let s := Session.start Session.smallEmulator
    tooSmall s.emulator.machine.display 83 37 = false ∧ 22 ≤ 37 ∧
      (∀ f, ShowsWhole s 83 37 f) ∧ readBack s 83 37 .counter = some 0 := by
  intro s
  have hroom : tooSmall s.emulator.machine.display 83 37 = false := by decide
  obtain ⟨hwhole, hread, -, hwidth⟩ := registers_shown_whole_iff hroom (by decide : 22 ≤ 37)
  have hall := hwhole.mpr ⟨hwidth (by decide) (by decide), by decide, by decide, by decide⟩
  exact ⟨hroom, by decide, hall, hread hall .counter⟩

-- Loads I with 0xFFF and adds one to it.
def indexOverflow : List UInt8 := [0xAF, 0xFF, 0x60, 0x01, 0xF0, 0x1E]

theorem long_index_is_cut :
    ∃ e, Emulator.new Session.smallMemory (Vector.replicate 8 0) [] indexOverflow = .ok e ∧
      let s := (Session.start e).after (List.replicate 3 (.update Timer.second))
      tooSmall s.emulator.machine.display 83 37 = false ∧
      (registersArea s 83 37).width = 17 ∧ s.emulator.machine.registers.i = 0x1000 ∧
      ¬ ShowsWhole s 83 37 .index := by
  refine ⟨.built Session.smallMemory (Vector.replicate 8 0) [] indexOverflow,
    Emulator.new_eq_ok_iff.mpr ⟨by decide, by decide, by decide, by decide, rfl⟩, ?_⟩
  intro s
  have hroom : tooSmall s.emulator.machine.display 83 37 = false := by decide +kernel
  have hwidth : (registersArea s 83 37).width = 17 := by decide +kernel
  have hindex : s.emulator.machine.registers.i = 0x1000 := by decide +kernel
  refine ⟨hroom, hwidth, hindex, ?_⟩
  rw [showsWhole_iff_fits hroom (by decide) hwidth]
  rintro ⟨-, hlt⟩
  rw [hindex] at hlt
  exact absurd hlt (by decide)

end Registers

end Chip8.Screen
