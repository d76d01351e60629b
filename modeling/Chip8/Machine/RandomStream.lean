namespace Chip8

abbrev RandomKey := Vector UInt32 8

namespace RandomKey

-- The state of a 64-bit linear congruential generator after `n` steps.
def generatorState (seed : UInt64) : Nat → UInt64
  | 0 => seed
  | n + 1 => generatorState seed n * 6364136223846793005 + 11634580027462260723

def rotateRight (word : UInt32) (count : UInt32) : UInt32 :=
  (word >>> count) ||| (word <<< (32 - count))

-- Folds a state to 32 bits and rotates them by its five highest bits.
def permute (state : UInt64) : UInt32 :=
  rotateRight (((state >>> 18) ^^^ state) >>> 27).toUInt32 (state >>> 59).toUInt32

def ofSeed (seed : UInt64) : RandomKey :=
  Vector.ofFn fun word => permute (generatorState seed (word.val + 1))

-- A key from thirty-two bytes, four to a word with the low byte first; missing
-- bytes are zero.
def ofBytes (bytes : Array UInt8) : RandomKey :=
  Vector.ofFn fun word =>
    let byte (k : Nat) : Nat := (bytes[4 * word.val + k]?.getD 0).toNat
    UInt32.ofNat (byte 0 + 256 * (byte 1 + 256 * (byte 2 + 256 * byte 3)))

end RandomKey

namespace ChaCha

abbrev Block := Vector UInt32 16

def rotateLeft (word : UInt32) (count : UInt32) : UInt32 :=
  (word <<< count) ||| (word >>> (32 - count))

def quarterRound (s : Block) (a b c d : Fin 16) : Block :=
  let s := s.set a (s[a] + s[b])
  let s := s.set d (rotateLeft (s[d] ^^^ s[a]) 16)
  let s := s.set c (s[c] + s[d])
  let s := s.set b (rotateLeft (s[b] ^^^ s[c]) 12)
  let s := s.set a (s[a] + s[b])
  let s := s.set d (rotateLeft (s[d] ^^^ s[a]) 8)
  let s := s.set c (s[c] + s[d])
  s.set b (rotateLeft (s[b] ^^^ s[c]) 7)

def columnRound (s : Block) : Block :=
  let s := quarterRound s 0 4 8 12
  let s := quarterRound s 1 5 9 13
  let s := quarterRound s 2 6 10 14
  quarterRound s 3 7 11 15

def diagonalRound (s : Block) : Block :=
  let s := quarterRound s 0 5 10 15
  let s := quarterRound s 1 6 11 12
  let s := quarterRound s 2 7 8 13
  quarterRound s 3 4 9 14

def doubleRounds : Nat → Block → Block
  | 0, s => s
  | n + 1, s => doubleRounds n (diagonalRound (columnRound s))

-- Constants, key, block counter with its low word first, and a nonce of zero.
def initial (key : RandomKey) (counter : UInt64) : Block :=
  #v[0x61707865, 0x3320646e, 0x79622d32, 0x6b206574,
    key[0], key[1], key[2], key[3], key[4], key[5], key[6], key[7],
    counter.toUInt32, (counter >>> 32).toUInt32, 0, 0]

def block (key : RandomKey) (counter : UInt64) : Block :=
  let start := initial key counter
  (doubleRounds 6 start).zipWith (· + ·) start

def word (key : RandomKey) (n : Nat) : UInt32 :=
  (block key (n / 16).toUInt64).get ⟨n % 16, Nat.mod_lt _ (by decide)⟩

end ChaCha

structure RandomStream where
  key : RandomKey
  -- How many bytes have been taken.
  position : Nat
  deriving DecidableEq

namespace RandomStream

def ofKey (key : RandomKey) : RandomStream := ⟨key, 0⟩

def byteAt (key : RandomKey) (n : Nat) : UInt8 := (ChaCha.word key n).toUInt8

def next (s : RandomStream) : UInt8 × RandomStream :=
  (byteAt s.key s.position, { s with position := s.position + 1 })

end RandomStream

end Chip8
