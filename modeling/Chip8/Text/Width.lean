import Chip8.Text.Cluster
import Chip8.Text.Table.Width

namespace Chip8.Text

-- Selectors, which say how the character before them is to be shown.
def quoteSelector : Char := '\ufe01'

def textSelector : Char := '\ufe0e'

def pictureSelector : Char := '\ufe0f'

-- The frame around the character before it that makes a key of a keyboard.
def keycap : Char := '\u20e3'

-- The black flag, which the tags after it turn into the flag of a region.
def tagFlag : Char := Char.ofNat 0x1F3F4

def tagEnd : Char := Char.ofNat 0xE007F

def isTagLetter (c : Char) : Bool := CodeRanges.contains [(0xE0061, 0xE007A)] c

def isTagDigit (c : Char) : Bool := CodeRanges.contains [(0xE0030, 0xE0039)] c

def isQuote (c : Char) : Bool := CodeRanges.contains [(0x2018, 0x2019), (0x201C, 0x201D)] c

-- The sign that puts the Khmer letter after it below the one before it.
def coeng : Char := '\u17d2'

-- The Kirat Rai vowel signs that are parts of other ones: E twice is AI, AA and
-- E are O, and AA and AI, or O and E, are AU.
def kiratAa : Char := Char.ofNat 0x16D63

def kiratE : Char := Char.ofNat 0x16D67

def kiratAi : Char := Char.ofNat 0x16D68

def kiratO : Char := Char.ofNat 0x16D69

-- Characters whose own cells do not follow from what kind they are: the joiner
-- of Tifinagh consonants, a Khmer vowel and the Khmer sign for what goes on like
-- this, the initial jamo that stands for a missing one, and the voicing marks of
-- halfwidth Katakana, which keep a blank cell beside them.
def ownWidth? (c : Char) : Option Nat :=
  if c = '\u2d7f' then some 1
  else if c = '\u17a4' then some 2
  else if c = '\u17d8' then some 3
  else if c = '\u115f' then some 2
  else if c = '\uff9e' ∨ c = '\uff9f' then some 2
  else none

def isHidden (c : Char) : Bool :=
  ignorable.contains c || extending.contains c || completing.contains c
    || initialForms.contains c || looseMarks.contains c || overlaid.contains c

def charWidth (c : Char) : Nat :=
  (ownWidth? c).getD (if isHidden c then 0 else if wide.contains c then 2 else 1)

namespace Cluster

-- What a text begins with, as far as the width of a character before it
-- depends on it.
inductive Start where
  | quoteSelector
  | textSelector
  -- A selector, which perhaps stands before a joined picture.
  | pictureSelector (joined : Bool)
  | tone
  | picture
  -- A joiner and a picture, or more of what a joined picture may end with: a
  -- keycap, a regional indicator, or tags with some letters and digits so far.
  | joined
  | joinedKeycap
  | joinedIndicator
  | joinedTags (letters digits : Nat)
  | khmerLetter
  | kiratE
  | kiratAi
  | other
  deriving DecidableEq, Repr

def Start.ofChar (c : Char) : Start :=
  if c = Text.quoteSelector then .quoteSelector
  else if c = Text.textSelector then .textSelector
  else if c = Text.pictureSelector then .pictureSelector false
  else if isTone c then .tone
  else if pictures.contains c then .picture
  else if khmerLetters.contains c then .khmerLetter
  else if c = Text.kiratE then .kiratE
  else if c = Text.kiratAi then .kiratAi
  else .other

structure Extent where
  cells : Nat := 0
  start : Start := .other

namespace Extent

def push (e : Extent) (c : Char) : Extent := ⟨e.cells + charWidth c, .ofChar c⟩

-- A character that makes one with those after it and takes no further cells.
def merge (e : Extent) (start : Start) : Extent := ⟨e.cells, start⟩

def become (e : Extent) (cells : Nat) (start : Start) : Extent := ⟨e.cells + cells, start⟩

def pushJoined (e : Extent) (c : Char) : Extent :=
  if c = pictureSelector then e.merge (.pictureSelector true)
  else if c = keycap then e.merge .joinedKeycap
  else if isRegional c then e.become 1 .joinedIndicator
  else if c = tagEnd then e.merge (.joinedTags 0 0)
  else if isTone c then e.merge .tone
  else if pictures.contains c then e.merge .picture
  else e.push c

-- A character before tags that are joined. The tags name a region by three letters
-- to six, or by three digits, which up to four letters may follow.
def pushTag (e : Extent) (letters digits : Nat) (c : Char) : Extent :=
  if isTagLetter c ∧ digits = 0 ∧ letters < 6 then e.merge (.joinedTags (letters + 1) 0)
  else if isTagDigit c ∧ letters ≤ 4 ∧ digits < 3 then e.merge (.joinedTags letters (digits + 1))
  else if c = tagFlag ∧ (digits = 3 ∨ (digits = 0 ∧ 3 ≤ letters)) then e.merge .picture
  else e.push c

def cons (c : Char) (e : Extent) : Extent :=
  match e.start with
  | .quoteSelector => if isQuote c then e.become 2 .other else e.push c
  | .textSelector => if pictureTexts.contains c then e.become 1 .other else e.push c
  | .pictureSelector joined =>
    if selectable.contains c then e.become (if joined then 0 else 2) .picture else e.push c
  | .tone =>
    if tintable.contains c then e.merge .picture
    else if c = joiner then e.merge .joined
    else e.push c
  | .picture => if c = joiner then e.merge .joined else e.push c
  | .joined => e.pushJoined c
  | .joinedKeycap => if c = pictureSelector then e.merge (.pictureSelector true) else e.push c
  -- Both indicators of a joined flag together take no cells.
  | .joinedIndicator => if isRegional c then ⟨e.cells - 1, .other⟩ else e.push c
  | .joinedTags letters digits => e.pushTag letters digits c
  -- A letter below another one takes no cells.
  | .khmerLetter =>
    if c = coeng then ⟨e.cells - 1, .other⟩
    else if c = joiner || ignorableMarks.contains c then e
    else e.push c
  | .kiratE =>
    if c = Text.kiratE then e.merge .kiratAi
    else if c = Text.kiratAi then e.become 1 .kiratE
    else if c = kiratAa || c = kiratO then e.merge .other
    else e.push c
  | .kiratAi => if c = kiratAa then e.merge .other else e.push c
  | .other => e.push c

end Extent

def width (c : Cluster) : Nat := (c.toList.foldr Extent.cons {}).cells

end Cluster

end Chip8.Text
