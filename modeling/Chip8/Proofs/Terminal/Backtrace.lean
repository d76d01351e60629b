import Chip8.Proofs.Terminal.Picture
import Chip8.Proofs.Text.Numeral

namespace Chip8.Screen

def addressLine (address : UInt16) : Line := Line.ofString (Text.hex 3 address.toNat)

def moreLine (count : Nat) : Line := Line.ofString s!"+{count} more" { dim := true }

section Reading

-- The address that a line of the panel lists, if it does not count.
def addressOf? (line : Line) : Option Nat := Text.natural? 16 line.symbols

def countOf? (line : Line) : Option Nat :=
  match line.symbols with
  | '+' :: rest => Text.natural? 10 (rest.takeWhile (· ≠ ' '))
  | _ => none

def listed (lines : List Line) : List Nat := lines.filterMap addressOf?

def counted (lines : List Line) : Nat := (lines.findSome? countOf?).getD 0

theorem symbols_moreLine (count : Nat) :
    (moreLine count).symbols = '+' :: ((toString count).toList ++ " more".toList) := by
  rw [moreLine, Line.symbols_ofString]
  show (toString "+" ++ toString count ++ toString " more").toList = _
  rw [String.toList_append, String.toList_append]
  rfl

theorem addressOf?_addressLine (address : UInt16) :
    addressOf? (addressLine address) = some address.toNat := by
  simp [addressOf?, addressLine, Text.natural?_hex]

theorem addressOf?_moreLine (count : Nat) : addressOf? (moreLine count) = none := by
  rw [addressOf?, symbols_moreLine]
  rfl

theorem countOf?_addressLine (address : UInt16) : countOf? (addressLine address) = none := by
  have hdigit : ∀ d < 16, Text.digitChar d ≠ '+' := by decide
  unfold countOf?
  split
  · rename_i rest hsymbols
    rw [addressLine, Line.symbols_ofString] at hsymbols
    have hplus : '+' ∈ (Text.hex 3 address.toNat).toList := by simp [hsymbols]
    obtain ⟨d, hd, hchar⟩ := Text.mem_hex hplus
    exact absurd hchar.symm (hdigit d hd)
  · rfl

theorem countOf?_moreLine (count : Nat) : countOf? (moreLine count) = some count := by
  rw [countOf?, symbols_moreLine]
  show Text.natural? 10 (((toString count).toList ++ " more".toList).takeWhile (· ≠ ' ')) = _
  rw [Text.takeWhile_word, Text.natural?_toString]
  · intro c hc
    obtain ⟨d, hd, rfl⟩ := Text.mem_toString hc
    exact Text.digitChar_ne_blank d (by omega)
  · simp

theorem listed_map_addressLine (entries : List UInt16) :
    listed (entries.map addressLine) = entries.map UInt16.toNat := by
  have hread : addressOf? ∘ addressLine = some ∘ UInt16.toNat := funext addressOf?_addressLine
  rw [listed, List.filterMap_map, hread, List.filterMap_eq_map]

theorem findSome?_map_addressLine (entries : List UInt16) :
    (entries.map addressLine).findSome? countOf? = none := by
  rw [List.findSome?_eq_none_iff, List.forall_mem_map]
  exact fun address _ => countOf?_addressLine address

theorem counted_map_addressLine (entries : List UInt16) :
    counted (entries.map addressLine) = 0 := by
  rw [counted, findSome?_map_addressLine, Option.getD_none]

theorem listed_append_moreLine (lines : List Line) (count : Nat) :
    listed (lines ++ [moreLine count]) = listed lines := by
  simp [listed, addressOf?_moreLine]

theorem counted_append_moreLine (entries : List UInt16) (count : Nat) :
    counted (entries.map addressLine ++ [moreLine count]) = count := by
  simp [counted, List.findSome?_append, findSome?_map_addressLine, countOf?_moreLine]

end Reading

section Lines

variable {live : List UInt16} {height : Nat}

theorem stackLines_of_le (h : live.length ≤ max 1 (height - 2)) :
    stackLines live height = live.reverse.map addressLine := by
  have hshort : live.reverse.length ≤ max (height - 2) 1 := by
    rw [List.length_reverse]
    omega
  simp only [stackLines]
  rw [if_neg (by omega), List.take_of_length_le hshort]
  rfl

theorem stackLines_of_lt (h : max 1 (height - 2) < live.length) :
    stackLines live height =
      (live.reverse.take (max 1 (height - 2) - 1)).map addressLine ++
        [moreLine (live.length - (max 1 (height - 2) - 1))] := by
  have hcount : live.length - max (height - 2) 1 + 1 =
      live.length - (max 1 (height - 2) - 1) := by omega
  have hlong : max (height - 2) 1 < live.reverse.length := by
    rw [List.length_reverse]
    omega
  simp only [stackLines]
  rw [if_pos (by omega), hcount, ← List.map_dropLast, List.dropLast_take hlong,
    Nat.max_comm (height - 2) 1]
  rfl

-- With one row at least, a panel lists all entries, innermost first, or as many
-- as leave a row to count the others. Read back, its lines hold the innermost
-- addresses, and what they list and count adds up to the depth.
theorem stack_panel_tells_depth (stack : CallStack) (area : Area) :
    let rows := max 1 (area.height - 2)
    let lines := (stackPanel stack area).lines.toList
    (stack.depth ≤ rows → lines = stack.live.reverse.map addressLine) ∧
    (rows < stack.depth →
      lines = (stack.live.reverse.take (rows - 1)).map addressLine ++
        [moreLine (stack.depth - (rows - 1))]) ∧
    listed lines <+: stack.live.reverse.map UInt16.toNat ∧
    (listed lines).length + counted lines = stack.depth ∧
    lines.length ≤ rows := by
  intro rows lines
  have hlines : lines = stackLines stack.live area.height := by simp [lines, stackPanel]
  have hdepth := stack.length_live
  by_cases h : stack.depth ≤ rows
  · have hall : lines = stack.live.reverse.map addressLine := by
      rw [hlines, stackLines_of_le (by omega)]
    have hlisted : listed lines = stack.live.reverse.map UInt16.toNat := by
      rw [hall, listed_map_addressLine]
    refine ⟨fun _ => hall, fun hlt => by omega, hlisted ▸ List.prefix_rfl, ?_, ?_⟩
    · rw [hlisted, hall, counted_map_addressLine]
      simpa using hdepth
    · simpa [hall, hdepth] using h
  · have hsome : lines = (stack.live.reverse.take (rows - 1)).map addressLine ++
        [moreLine (stack.depth - (rows - 1))] := by
      rw [hlines, stackLines_of_lt (by omega), hdepth]
    have hlisted : listed lines = (stack.live.reverse.map UInt16.toNat).take (rows - 1) := by
      rw [hsome, listed_append_moreLine, listed_map_addressLine, List.map_take]
    have hcounted : counted lines = stack.depth - (rows - 1) := by
      rw [hsome, counted_append_moreLine]
    refine ⟨fun hle => absurd hle h, fun _ => hsome, ?_, ?_, ?_⟩
    · rw [hlisted]
      exact List.take_prefix _ _
    · rw [hlisted, hcounted, List.length_take, List.length_map, List.length_reverse]
      omega
    · rw [hsome, List.length_append, List.length_map, List.length_take, List.length_reverse,
        List.length_singleton]
      omega

end Lines

end Chip8.Screen
