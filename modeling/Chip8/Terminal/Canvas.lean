import Chip8.Text.Width

namespace Chip8

inductive Color where
  | reset
  | black
  | red
  | green
  deriving DecidableEq, Repr

structure Style where
  foreground : Color := .reset
  background : Color := .reset
  dim : Bool := false
  deriving DecidableEq, Repr

structure Cell where
  symbol : Char := ' '
  style : Style := {}
  marks : List Char := []
  deriving DecidableEq, Repr

namespace Cell

def cluster (c : Cell) : Text.Cluster := ⟨c.symbol, c.marks⟩

def text (c : Cell) : String := String.ofList c.cluster.toList

def width (c : Cell) : Nat := c.cluster.width

end Cell

abbrev Line := Array Cell

namespace Line

-- A line of characters that take one cell each.
def ofString (text : String) (style : Style := {}) : Line :=
  (text.toList.map fun symbol => { symbol, style }).toArray

def isControl (c : Char) : Bool := c.toNat < 0x20 || (0x7F ≤ c.toNat && c.toNat < 0xA0)

def cells (c : Text.Cluster) : List Cell :=
  match c.width with
  | 0 => []
  | n + 1 => { symbol := c.base, marks := c.marks } :: List.replicate n {}

-- The cells of clusters on a line of which some room is left. A cluster that is
-- wider than the whole line is passed over; one that is only wider than what is
-- left ends the text.
def fit (room left : Nat) : List Text.Cluster → List Cell
  | [] => []
  | c :: rest =>
    if room < c.width then fit room left rest
    else if left < c.width then []
    else cells c ++ fit room (left - c.width) rest

-- A line of any text, cut to its room. Controls are not shown.
def ofText (room : Nat) (text : String) : Line :=
  (fit room room ((Text.clusters text.toList).filter fun c => ! c.toList.any isControl)).toArray

end Line

structure Area where
  left : Nat
  top : Nat
  width : Nat
  height : Nat
  deriving DecidableEq, Repr

inductive Alignment where
  | left
  | centre
  deriving DecidableEq, Repr

structure Panel where
  area : Area
  title : String := ""
  alignment : Alignment := .left
  base : Style := {}
  lines : Array Line

namespace Panel

def innerWidth (p : Panel) : Nat := p.area.width - 2

def indent (p : Panel) (line : Line) : Nat :=
  match p.alignment with
  | .left => 0
  | .centre => p.innerWidth / 2 - line.size / 2

def border? (p : Panel) (column row : Nat) : Option Char :=
  let right := column + 1 = p.area.width
  let bottom := row + 1 = p.area.height
  if column = 0 ∧ row = 0 then some '┌'
  else if column = 0 ∧ bottom then some '└'
  else if right ∧ row = 0 then some '┐'
  else if right ∧ bottom then some '┘'
  else if row = 0 ∨ bottom then some '─'
  else if column = 0 ∨ right then some '│'
  else none

-- The character of the title at a cell of the top border. The title starts
-- right after the corner and is cut before the other one.
def title? (p : Panel) (column row : Nat) : Option Char :=
  if row = 0 ∧ 0 < column ∧ column ≤ p.innerWidth then p.title.toList[column - 1]? else none

def text? (p : Panel) (column row : Nat) : Option Cell := do
  let cells ← p.lines[row - 1]?
  let indent := p.indent cells
  if indent + 1 ≤ column then cells[column - 1 - indent]? else none

def inside (p : Panel) (column row : Nat) : Cell :=
  match p.title? column row, p.border? column row with
  | some symbol, _ => { symbol, style := p.base }
  | none, some symbol => { symbol, style := p.base }
  | none, none => (p.text? column row).getD { style := p.base }

def cell? (p : Panel) (x y : Nat) : Option Cell :=
  let a := p.area
  if a.left ≤ x ∧ x < a.left + a.width ∧ a.top ≤ y ∧ y < a.top + a.height then
    some (p.inside (x - a.left) (y - a.top))
  else
    none

end Panel

-- The cell of a picture: that of the first panel which covers it, and blank
-- where none does.
def pictureCell (panels : List Panel) (x y : Nat) : Cell :=
  (panels.findSome? fun p => p.cell? x y).getD {}

def picture (panels : List Panel) (width height : Nat) : Array Line :=
  (Array.range height).map fun y => (Array.range width).map fun x => pictureCell panels x y

end Chip8
