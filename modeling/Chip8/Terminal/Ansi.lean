import Chip8.Terminal.Canvas

namespace Chip8.Ansi

def foregroundCode : Color → Nat
  | .reset => 39
  | .black => 30
  | .red => 31
  | .green => 32

def backgroundCode : Color → Nat
  | .reset => 49
  | .black => 40
  | .red => 41
  | .green => 42

def style (s : Style) : String :=
  let dim := if s.dim then ";2" else ""
  s!"\x1b[0;{foregroundCode s.foreground};{backgroundCode s.background}" ++ dim ++ "m"

structure Writing where
  text : String := ""
  style : Option Style := none
  -- The cells that what is written last still covers.
  covered : Nat := 0

def write (w : Writing) (cell : Cell) : Writing :=
  if 0 < w.covered then
    { w with covered := w.covered - 1 }
  else
    let change := if w.style = some cell.style then "" else style cell.style
    ⟨w.text ++ change ++ cell.text, some cell.style, cell.width - 1⟩

def line (cells : Line) : String := (cells.foldl write {}).text

def picture (lines : Array Line) : String :=
  "\x1b[H" ++ "\r\n".intercalate (lines.toList.map line) ++ "\x1b[0m"

def enter : String := "\x1b[?1049h\x1b[?25l\x1b[2J"

def leave : String := "\x1b[?25h\x1b[?1049l"

end Chip8.Ansi
