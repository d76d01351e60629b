import Chip8.Text.Table.Attaching
import Chip8.Text.Table.Conjunct
import Chip8.Text.Table.Emoji

namespace Chip8.Text

structure Cluster where
  base : Char
  marks : List Char := []
  deriving DecidableEq, Repr

namespace Cluster

def toList (c : Cluster) : List Char := c.base :: c.marks

-- How a character attaches to those beside it.
inductive Bond where
  | carriageReturn
  | lineFeed
  | control
  | extending
  | joiner
  | spacing
  | leading
  | regional
  | pictographic
  -- The jamo of Hangul, and syllables without and with a final one.
  | initial
  | vowel
  | final
  | openSyllable
  | closedSyllable
  | letter
  deriving DecidableEq, Repr

def isInitial (c : Char) : Bool :=
  CodeRanges.contains [(0x1100, 0x115F), (0xA960, 0xA97C)] c

-- The vowels of Hangul, and the vowel signs that attach as they do.
def isVowel (c : Char) : Bool :=
  CodeRanges.contains
    [(0x1160, 0x11A7), (0xD7B0, 0xD7C6), (0x16D63, 0x16D63), (0x16D67, 0x16D6A)] c

def isFinal (c : Char) : Bool :=
  CodeRanges.contains [(0x11A8, 0x11FF), (0xD7CB, 0xD7FB)] c

def isSyllable (c : Char) : Bool := CodeRanges.contains [(0xAC00, 0xD7A3)] c

def isRegional (c : Char) : Bool := CodeRanges.contains [(0x1F1E6, 0x1F1FF)] c

def isTone (c : Char) : Bool := CodeRanges.contains [(0x1F3FB, 0x1F3FF)] c

def joiner : Char := '\u200d'

def nonJoiner : Char := '\u200c'

-- Each syllable without a final jamo is followed by its 27 ones with one.
def syllableBond (c : Char) : Bond :=
  if (c.toNat - 0xAC00) % 28 = 0 then .openSyllable else .closedSyllable

def bond (c : Char) : Bond :=
  if c = '\r' then .carriageReturn
  else if c = '\n' then .lineFeed
  else if c = joiner then .joiner
  else if controlling.contains c then .control
  else if extending.contains c || isTone c then .extending
  else if spacing.contains c then .spacing
  else if leading.contains c then .leading
  else if isRegional c then .regional
  else if isInitial c then .initial
  else if isVowel c then .vowel
  else if isFinal c then .final
  else if isSyllable c then syllableBond c
  else if pictographic.contains c then .pictographic
  else .letter

-- Whether pictures are being joined at the end of a cluster.
inductive PictureEnd where
  | none
  | picture
  | joined
  deriving DecidableEq, Repr

-- Whether consonants are being linked at the end of a cluster.
inductive ConjunctEnd where
  | none
  | consonant
  | linked
  deriving DecidableEq, Repr

-- What the end of a cluster says about the character after it.
structure Ending where
  bond : Bond
  pictures : PictureEnd
  conjunct : ConjunctEnd
  -- An odd number of regional indicators, the last of which lacks its partner.
  unpaired : Bool
  deriving DecidableEq, Repr

namespace Ending

def nextPictures (e : PictureEnd) : Bond → PictureEnd
  | .pictographic => .picture
  | .extending => if e = .picture then .picture else .none
  | .joiner => if e = .picture then .joined else .none
  | _ => .none

def nextConjunct (e : ConjunctEnd) (c : Char) : ConjunctEnd :=
  if consonants.contains c then .consonant
  else if e = .none then .none
  else if linkers.contains c then .linked
  else if (Cluster.bond c = .extending ∧ c ≠ nonJoiner) ∨ Cluster.bond c = .joiner then e
  else .none

def first (c : Char) : Ending where
  bond := Cluster.bond c
  pictures := nextPictures .none (Cluster.bond c)
  conjunct := nextConjunct .none c
  unpaired := Cluster.bond c = .regional

def push (e : Ending) (c : Char) : Ending where
  bond := Cluster.bond c
  pictures := nextPictures e.pictures (Cluster.bond c)
  conjunct := nextConjunct e.conjunct c
  unpaired := Cluster.bond c = .regional ∧ ¬ e.unpaired

def holds : Bond → Bond → Bool
  | .carriageReturn, .lineFeed => true
  | .carriageReturn, _ | .lineFeed, _ | .control, _ => false
  | _, .carriageReturn | _, .lineFeed | _, .control => false
  | _, .extending | _, .joiner | _, .spacing => true
  | .leading, _ => true
  | .initial, .initial | .initial, .vowel => true
  | .initial, .openSyllable | .initial, .closedSyllable => true
  | .openSyllable, .vowel | .openSyllable, .final => true
  | .vowel, .vowel | .vowel, .final => true
  | .closedSyllable, .final | .final, .final => true
  | _, _ => false

def accepts (e : Ending) (c : Char) : Bool :=
  holds e.bond (Cluster.bond c)
    || (e.conjunct = .linked && consonants.contains c)
    || (e.pictures = .joined && Cluster.bond c = .pictographic)
    || (e.unpaired && Cluster.bond c = .regional)

def next (e : Ending) (c : Char) : Ending := if e.accepts c then e.push c else first c

end Ending

-- The marks that a text adds to a cluster before it, and its further clusters.
def continued (e : Ending) : List Char → List Char × List Cluster
  | [] => ([], [])
  | c :: rest =>
    let (marks, later) := continued (e.next c) rest
    if e.accepts c then (c :: marks, later) else ([], ⟨c, marks⟩ :: later)

end Cluster

def clusters : List Char → List Cluster
  | [] => []
  | c :: rest =>
    let (marks, later) := Cluster.continued (.first c) rest
    ⟨c, marks⟩ :: later

end Chip8.Text
