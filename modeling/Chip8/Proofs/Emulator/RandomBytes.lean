import Chip8.Proofs.Emulator.Conformance

namespace Chip8

namespace ChaCha

-- The words of the first blocks of a key stream, one block after the other.
def words (key : RandomKey) (blocks : Nat) : List UInt32 :=
  (List.range blocks).flatMap fun n => (block key n.toUInt64).toList

theorem words_succ (key : RandomKey) (blocks : Nat) :
    words key (blocks + 1) = words key blocks ++ (block key blocks.toUInt64).toList := by
  simp [words, List.range_succ]

theorem length_words (key : RandomKey) (blocks : Nat) :
    (words key blocks).length = 16 * blocks := by
  induction blocks with
  | zero => rfl
  | succ n ih =>
    rw [words_succ, List.length_append, ih, Vector.length_toList]
    omega

theorem getElem?_words (key : RandomKey) {k blocks : Nat} (h : k < 16 * blocks) :
    (words key blocks)[k]? = some (word key k) := by
  induction blocks with
  | zero => omega
  | succ n ih =>
    have hlength := length_words key n
    rw [words_succ]
    by_cases hk : k < 16 * n
    · rw [List.getElem?_append_left (by omega), ih hk]
    · have hblock : k / 16 = n := by omega
      have hplace : k - 16 * n = k % 16 := by omega
      rw [List.getElem?_append_right (by omega), hlength, hplace, word, hblock]
      simp [Vector.get, Nat.mod_lt]

end ChaCha

def Instruction.random? : Instruction → Option (Nibble × UInt8)
  | .random x mask => some (x, mask)
  | _ => none

def Cycle.random? (c : Cycle) : Option (Nibble × UInt8) := c.instruction.random?

namespace RandomStream

def skip (s : RandomStream) (count : Nat) : RandomStream :=
  { s with position := s.position + count }

end RandomStream

namespace Machine

section Taking

variable {m : Machine} {keys : Keypad} {address : UInt16} {i : Instruction}

theorem random_execute :
    (m.execute keys address i).2.random =
      if i.random?.isSome then m.random.next.2 else m.random := by
  rw [execute_eq]
  cases i <;> rfl

theorem get_execute_of_random? {x : Nibble} {mask : UInt8} (h : i.random? = some (x, mask)) :
    (m.execute keys address i).2.get x =
      RandomStream.byteAt m.random.key m.random.position &&& mask := by
  cases i with
  | random y nn =>
    obtain ⟨rfl, rfl⟩ := Prod.mk.inj (Option.some.inj h)
    exact (get_set _ y _ y).trans (if_pos rfl)
  | _ => exact absurd h nofun

variable {delta : Nat}

theorem random_tick :
    (m.tick keys delta).2.random =
      if ((m.tick keys delta).1.bind Cycle.random?).isSome then m.random.next.2 else m.random := by
  cases hdue : m.clock.due delta with
  | false =>
    rw [tick_of_not_due hdue]
    rfl
  | true =>
    rw [tick_of_due hdue]
    exact random_execute (m := (m.timed delta).advance)

theorem get_tick_of_random? {x : Nibble} {mask : UInt8}
    (h : (m.tick keys delta).1.bind Cycle.random? = some (x, mask)) :
    (m.tick keys delta).2.get x =
      RandomStream.byteAt m.random.key m.random.position &&& mask := by
  cases hdue : m.clock.due delta with
  | false =>
    rw [tick_of_not_due hdue] at h
    exact absurd h.symm (Option.some_ne_none _)
  | true =>
    rw [tick_of_due hdue] at h ⊢
    exact get_execute_of_random? (m := (m.timed delta).advance) h

end Taking

end Machine

namespace Emulator

def Response.random? : Response → Option (Nibble × UInt8)
  | .report r => r.cycle?.bind Cycle.random?
  | _ => none

-- How many Cxnn the events before event `n` of a run have executed.
def bytesTaken (e : Emulator) (events : List Event) (n : Nat) : Nat :=
  ((e.responses events).take n).countP fun response => response.random?.isSome

-- Event `n` of a run executes the Cxnn number `k`, counted from zero.
structure TakesByte (e : Emulator) (events : List Event) (n k : Nat) (x : Nibble)
    (mask : UInt8) : Prop where
  executed : (e.responses events)[n]?.bind Response.random? = some (x, mask)
  number : e.bytesTaken events n = k

section Run

variable {e : Emulator} {events : List Event}

theorem random_handle (event : Event) :
    (e.handle event).2.machine.random =
      if (e.handle event).1.random?.isSome then e.machine.random.next.2 else e.machine.random := by
  cases event with
  | update delta => exact Machine.random_tick
  | setKey key down => rfl
  | takeFrame =>
    show e.takeFrame.2.machine.random = e.machine.random
    rw [snd_takeFrame]

theorem get_handle_of_random? {event : Event} {x : Nibble} {mask : UInt8}
    (h : (e.handle event).1.random? = some (x, mask)) :
    (e.handle event).2.machine.get x =
      RandomStream.byteAt e.machine.random.key e.machine.random.position &&& mask := by
  cases event with
  | update delta => exact Machine.get_tick_of_random? h
  | setKey key down => exact absurd h nofun
  | takeFrame => exact absurd h nofun

theorem bytesTaken_succ {n : Nat} {event : Event} (h : events[n]? = some event) :
    e.bytesTaken events (n + 1) =
      e.bytesTaken events n +
        if ((e.before events n).handle event).1.random?.isSome then 1 else 0 := by
  have hresponse : (e.responses events)[n]? = some ((e.before events n).handle event).1 := by
    rw [getElem?_responses, h, Option.map_some]
  simp only [bytesTaken, List.take_add_one, hresponse, Option.toList_some, List.countP_append,
    List.countP_singleton]

theorem random_before {n : Nat} (hn : n ≤ events.length) :
    (e.before events n).machine.random = e.machine.random.skip (e.bytesTaken events n) := by
  induction n with
  | zero => rfl
  | succ n ih =>
    have hevent := List.getElem?_eq_getElem hn
    rw [before_succ e hevent, random_handle, ih (Nat.le_of_succ_le hn), bytesTaken_succ hevent]
    split <;> rfl

theorem TakesByte.get_eq {n k : Nat} {x : Nibble} {mask : UInt8}
    (h : e.TakesByte events n k x mask) :
    (e.before events (n + 1)).machine.get x =
      RandomStream.byteAt e.machine.random.key (e.machine.random.position + k) &&& mask := by
  obtain ⟨hexecuted, rfl⟩ := h
  obtain ⟨response, hresponse, hrandom⟩ := Option.bind_eq_some_iff.mp hexecuted
  rw [getElem?_responses] at hresponse
  obtain ⟨event, hevent, rfl⟩ := Option.map_eq_some_iff.mp hresponse
  have hn : n < events.length := (List.getElem?_eq_some_iff.mp hevent).1
  rw [before_succ e hevent, get_handle_of_random? hrandom, random_before (Nat.le_of_lt hn)]
  rfl

end Run

section Seeded

variable {c : Config} {unseeded : RandomKey} {font program : List UInt8} {e : Emulator}
  {seed : UInt64}

theorem random_of_new (hnew : new c unseeded font program = .ok e) (hseed : c.seed = some seed) :
    e.machine.random = .ofKey (.ofSeed seed) := by
  obtain ⟨-, -, -, -, rfl⟩ := new_eq_ok_iff.mp hnew
  show Machine.randomStream c unseeded = _
  rw [Machine.randomStream, hseed]
  rfl

theorem get_of_takesByte (hnew : new c unseeded font program = .ok e) (hseed : c.seed = some seed)
    {events : List Event} {n k : Nat} {x : Nibble} {mask : UInt8}
    (h : e.TakesByte events n k x mask) :
    (e.before events (n + 1)).machine.get x =
      (ChaCha.word (.ofSeed seed) k).toUInt8 &&& mask := by
  have hget := h.get_eq
  rw [random_of_new hnew hseed] at hget
  simpa [RandomStream.ofKey, RandomStream.byteAt] using hget

-- The position in the stream is the number of Cxnn that have been executed, and
-- Cxnn number `k` masks the low byte of word `k` of the key stream of the seed.
-- So runs with one seed get the same bytes, whatever else they have.
theorem random_bytes_follow_seed (hnew : new c unseeded font program = .ok e)
    (hseed : c.seed = some seed) (events : List Event) :
    (∀ n ≤ events.length,
      (e.before events n).machine.random = ⟨.ofSeed seed, e.bytesTaken events n⟩) ∧
    (∀ n k x mask, e.TakesByte events n k x mask → ∀ blocks, k < 16 * blocks →
      ∃ word, (ChaCha.words (.ofSeed seed) blocks)[k]? = some word ∧
        (e.before events (n + 1)).machine.get x = word.toUInt8 &&& mask) ∧
    ∀ (c' : Config) (unseeded' : RandomKey) (font' program' : List UInt8) (e' : Emulator)
      (events' : List Event), new c' unseeded' font' program' = .ok e' → c'.seed = c.seed →
      ∀ n n' k x x' mask mask', e.TakesByte events n k x mask →
        e'.TakesByte events' n' k x' mask' →
        ∃ byte, (e.before events (n + 1)).machine.get x = byte &&& mask ∧
          (e'.before events' (n' + 1)).machine.get x' = byte &&& mask' := by
  refine ⟨?_, ?_, ?_⟩
  · intro n hn
    rw [random_before hn, random_of_new hnew hseed]
    simp [RandomStream.ofKey, RandomStream.skip]
  · intro n k x mask htakes blocks hk
    exact ⟨_, ChaCha.getElem?_words _ hk, get_of_takesByte hnew hseed htakes⟩
  · intro c' unseeded' font' program' e' events' hnew' hsame n n' k x x' mask mask' htakes htakes'
    exact ⟨_, get_of_takesByte hnew hseed htakes,
      get_of_takesByte hnew' (hsame.trans hseed) htakes'⟩

end Seeded

-- A Cxnn with a zero mask, a word that is no instruction, and a Cxnn with the
-- mask 0x0F.
def drawTwice : Config where
  memorySize := 16
  programAddress := 0
  fontAddress := 0
  seed := some 7

def drawTwiceEmulator : Emulator :=
  built drawTwice (Vector.replicate 8 0) [] [0xC3, 0x00, 0xFF, 0xFF, 0xC2, 0x0F]

def drawTwiceRun : List Event :=
  [.update 0, .update Timer.second, .takeFrame, .update Timer.second, .setKey 3 true,
    .update Timer.second]

theorem random_bytes_follow_seed_drawTwice :
    new drawTwice (Vector.replicate 8 0) [] [0xC3, 0x00, 0xFF, 0xFF, 0xC2, 0x0F] =
        .ok drawTwiceEmulator ∧
      drawTwice.seed = some 7 ∧ drawTwiceEmulator.TakesByte drawTwiceRun 5 1 2 0x0F ∧
      (drawTwiceEmulator.before drawTwiceRun 6).machine.random = ⟨.ofSeed 7, 2⟩ ∧
      ∃ word, (ChaCha.words (.ofSeed 7) 1)[1]? = some word ∧
        (drawTwiceEmulator.before drawTwiceRun 6).machine.get 2 = word.toUInt8 &&& 0x0F := by
  have hnew : new drawTwice (Vector.replicate 8 0) [] [0xC3, 0x00, 0xFF, 0xFF, 0xC2, 0x0F] =
      .ok drawTwiceEmulator :=
    new_eq_ok_iff.mpr ⟨by decide, by decide, by decide, by decide, rfl⟩
  have htakes : drawTwiceEmulator.TakesByte drawTwiceRun 5 1 2 0x0F :=
    ⟨by decide, by decide⟩
  have hcount : drawTwiceEmulator.bytesTaken drawTwiceRun 6 = 2 := by decide
  obtain ⟨hstream, hbytes, -⟩ := random_bytes_follow_seed hnew rfl drawTwiceRun
  have hposition := hstream 6 (Nat.le_refl 6)
  rw [hcount] at hposition
  exact ⟨hnew, rfl, htakes, hposition, hbytes 5 1 2 0x0F htakes 1 (by decide)⟩

end Emulator

end Chip8
