import Chip8.Proofs.Checked.Drawing
import Chip8.Proofs.Machine.Conformance

namespace Chip8

namespace CallStack

def ofSlots (slots : Array UInt16) (depth : Nat) : Checked CallStack :=
  if h : depth ≤ slots.size then pure ⟨slots, depth, h⟩ else throw .indexOutOfRange

def storeChecked (s : CallStack) (address : UInt16) : Checked (Array UInt16) :=
  if s.depth < s.slots.size then Checked.set s.slots s.depth address
  else pure (s.slots.push address)

def pushChecked (s : CallStack) (address : UInt16) : Checked CallStack := do
  let slots ← s.storeChecked address
  let depth ← Checked.add wordLimit s.depth 1
  ofSlots slots depth

def popChecked (s : CallStack) : Checked (UInt16 × CallStack) := do
  if s.depth = 0 then
    return (0, s)
  let depth ← Checked.sub s.depth 1
  let address ← Checked.get s.slots depth
  return (address, ← ofSlots s.slots depth)

theorem ofSlots_eq (s : CallStack) : ofSlots s.slots s.depth = pure s := dif_pos s.depth_le

theorem storeChecked_eq (s : CallStack) (address : UInt16) :
    s.storeChecked address = pure (s.push address).slots := by
  unfold storeChecked push
  split
  · rename_i h
    exact Checked.set_eq h address
  · rfl

-- The slots have to be countable after the push, and then so are the entries in
-- use.
theorem pushChecked_eq {s : CallStack} {address : UInt16}
    (h : (s.push address).capacity < wordLimit) :
    s.pushChecked address = pure (s.push address) := by
  have hdepth := (s.push address).depth_le
  rw [depth_push] at hdepth
  have hroom : s.depth + 1 < wordLimit := Nat.lt_of_le_of_lt hdepth h
  rw [pushChecked, storeChecked_eq, pure_bind, Checked.add_eq hroom, pure_bind,
    ← s.depth_push address, ofSlots_eq]

theorem popChecked_eq (s : CallStack) : s.popChecked = pure s.pop := by
  have hdepth := s.depth_le
  unfold popChecked pop
  split
  · rfl
  · have hlt : s.depth - 1 < s.slots.size := by omega
    rw [Checked.sub_eq (by omega), pure_bind, Checked.get_eq (Array.getElem?_eq_getElem hlt),
      pure_bind, ofSlots, dif_pos (Nat.le_of_lt hlt), pure_bind]

end CallStack

namespace Timer

def nextValueChecked (t : Timer) : Checked UInt32 := do
  if t.value = 0 then
    return t.frequency
  let value ← Checked.sub t.value.toNat 1
  return UInt32.ofNat value

def tickChecked (t : Timer) (delta : Nat) : Checked Timer := do
  if t.due delta then
    let value ← t.nextValueChecked
    return { t with value, elapsed := 0 }
  else
    return { t with elapsed := addTime t.elapsed delta }

theorem nextValueChecked_eq (t : Timer) : t.nextValueChecked = pure t.nextValue := by
  have hnat := t.toNat_nextValue
  unfold nextValueChecked
  split
  · rename_i hzero
    rw [nextValue, if_pos hzero]
  · rename_i hne
    have hpos : t.value.toNat ≠ 0 := fun hzero => hne (UInt32.toNat_inj.mp hzero)
    rw [if_neg hne] at hnat
    rw [Checked.sub_eq (by omega), pure_bind, ← hnat, UInt32.ofNat_toNat]

theorem tickChecked_eq (t : Timer) (delta : Nat) : t.tickChecked delta = pure (t.tick delta) := by
  unfold tickChecked tick
  split
  · rw [nextValueChecked_eq, pure_bind]
  · rfl

end Timer

namespace Machine

def indexAddressChecked (m : Machine) (offset : Nat) : Checked Nat :=
  Checked.add wordLimit m.registers.i.toNat offset

def readChecked (m : Machine) (offset : Nat) : Checked UInt8 := do
  let address ← m.indexAddressChecked offset
  return m.memory.read address

def drawChecked (m : Machine) (x y n : Nibble) : Checked Machine := do
  let sprite ← (List.range n.val).mapM m.readChecked
  let (hit, display) ← m.display.drawChecked (m.get x).toNat (m.get y).toNat sprite
  return { m with display }.setFlag hit

-- The sum is taken in 32 bits.
def addIndexChecked (m : Machine) (x : Nibble) : Checked Machine := do
  let sum ← Checked.add 0x100000000 m.registers.i.toNat (m.get x).toNat
  let moved := m.setIndex (m.registers.i + (m.get x).toUInt16)
  return if m.dialect.indexSumSetsFlag ∧ 0xFFF < sum then moved.setFlag true else moved

-- The distance of the glyph is taken in 16 bits.
def loadGlyphChecked (m : Machine) (x : Nibble) : Checked Machine := do
  let offset ← Checked.mul 0x10000 (Nibble.low (m.get x)).val glyphHeight
  return m.setIndex (m.fontAddress + UInt16.ofNat offset)

def storeDecimalChecked (m : Machine) (x : Nibble) : Checked Machine := do
  let address ← m.indexAddressChecked 0
  return { m with memory := m.memory.write address (decimalDigits (m.get x)) }

def transferAddressChecked (m : Machine) (r : Nat) : Checked Nat :=
  if m.dialect.transferMovesIndex then m.indexAddressChecked 0 else m.indexAddressChecked r

def storeRegisterChecked (m : Machine) (r : Nat) : Checked Machine := do
  let address ← m.transferAddressChecked r
  let register ← Checked.register r
  return { m with memory := m.memory.set address (m.get register) }.moveIndex

def loadRegisterChecked (m : Machine) (r : Nat) : Checked Machine := do
  let address ← m.transferAddressChecked r
  let register ← Checked.register r
  return (m.set register (m.memory.read address)).moveIndex

-- The instructions that compute with anything but wrapping operations. The
-- others are as they are.
def executeChecked (m : Machine) (keys : Keypad) (address : UInt16) (i : Instruction) :
    Checked (Outcome × Machine) := do
  match i with
  | .ret =>
    let (top, stack) ← m.stack.popChecked
    return (.done, { m with stack }.jumpTo top)
  | .call nnn =>
    let stack ← m.stack.pushChecked m.registers.pc
    return (.done, { m with stack }.jumpTo nnn)
  | .draw x y n => return (.done, ← m.drawChecked x y n)
  | .addIndex x => return (.done, ← m.addIndexChecked x)
  | .loadGlyph x => return (.done, ← m.loadGlyphChecked x)
  | .storeDecimal x => return (.done, ← m.storeDecimalChecked x)
  | .storeRegisters x =>
    return (.done, ← (List.range (x.val + 1)).foldlM storeRegisterChecked m)
  | .loadRegisters x =>
    return (.done, ← (List.range (x.val + 1)).foldlM loadRegisterChecked m)
  | i => return m.execute keys address i

def fetchChecked (m : Machine) : Checked (Opcode × Machine) := do
  let high ← Checked.rem m.registers.pc.toNat m.memory.size
  let low ← Checked.rem (← Checked.add wordLimit high 1) m.memory.size
  let next ← Checked.rem (← Checked.add wordLimit high 2) m.memory.size
  let pc ← Checked.word16 next
  return (.ofBytes (m.memory.read high) (m.memory.read low), m.jumpTo pc)

def cycleChecked (m : Machine) (keys : Keypad) : Checked (Cycle × Machine) := do
  let (opcode, fetched) ← m.fetchChecked
  let (outcome, next) ← fetched.executeChecked keys m.registers.pc (.decode opcode)
  return (⟨m.registers.pc, opcode, outcome⟩, next)

def tickChecked (m : Machine) (keys : Keypad) (delta : Nat) : Checked (Option Cycle × Machine) := do
  let delay ← m.delay.tickChecked delta
  let clock ← m.clock.tickChecked delta
  let timed := { m with delay, clock }
  if m.clock.due delta then
    let (cycle, next) ← timed.cycleChecked keys
    return (some cycle, next)
  else
    return (none, timed)

theorem indexAddressChecked_eq (m : Machine) {offset : Nat} (h : offset < 16) :
    m.indexAddressChecked offset = pure (m.indexAddress offset) := by
  have hindex := m.registers.i.toNat_lt
  have hlimit : wordLimit = 18446744073709551616 := rfl
  exact Checked.add_eq (by omega)

theorem drawChecked_eq {m : Machine} (hsmall : m.display.width * m.display.height < wordLimit)
    (x y n : Nibble) : m.drawChecked x y n = pure (m.draw x y n) := by
  have hsprite : (List.range n.val).mapM m.readChecked =
      pure (m.memory.readMany (m.indexAddress 0) n.val) := by
    apply Checked.mapM_eq
    intro offset hoffset
    have hlt := List.mem_range.mp hoffset
    have hn := n.val_lt
    rw [readChecked, m.indexAddressChecked_eq (by omega), pure_bind]
    rfl
  rw [drawChecked, hsprite, pure_bind, Display.drawChecked_eq hsmall, pure_bind]
  rfl

theorem addIndexChecked_eq (m : Machine) (x : Nibble) :
    m.addIndexChecked x = pure (m.addIndex x) := by
  have hindex := m.registers.i.toNat_lt
  have hbyte := (m.get x).toNat_lt
  rw [addIndexChecked, Checked.add_eq (by omega), pure_bind]
  rfl

theorem loadGlyphChecked_eq (m : Machine) (x : Nibble) :
    m.loadGlyphChecked x = pure (m.loadGlyph x) := by
  have hdigit := (Nibble.low (m.get x)).val_lt
  have hoffset : (Nibble.low (m.get x)).val * glyphHeight < 0x10000 := by
    rw [glyphHeight]
    omega
  rw [loadGlyphChecked, Checked.mul_eq hoffset, pure_bind]
  rfl

theorem storeDecimalChecked_eq (m : Machine) (x : Nibble) :
    m.storeDecimalChecked x = pure (m.storeDecimal x) := by
  rw [storeDecimalChecked, m.indexAddressChecked_eq (by omega), pure_bind]
  rfl

theorem transferAddressChecked_eq (m : Machine) (r : Nibble) :
    m.transferAddressChecked r.val = pure (m.transferAddress r) := by
  unfold transferAddressChecked transferAddress
  split
  · exact m.indexAddressChecked_eq (by omega)
  · exact m.indexAddressChecked_eq r.val_lt

theorem storeRegisterChecked_eq (m : Machine) (r : Nibble) :
    m.storeRegisterChecked r.val = pure (m.storeRegister r) := by
  rw [storeRegisterChecked, transferAddressChecked_eq, pure_bind, Checked.register_eq, pure_bind]
  rfl

theorem loadRegisterChecked_eq (m : Machine) (r : Nibble) :
    m.loadRegisterChecked r.val = pure (m.loadRegister r) := by
  rw [loadRegisterChecked, transferAddressChecked_eq, pure_bind, Checked.register_eq, pure_bind]
  rfl

theorem foldlM_transfer_eq {checked : Machine → Nat → Checked Machine}
    {plain : Machine → Nibble → Machine} (hstep : ∀ m r, checked m r.val = pure (plain m r))
    (m : Machine) (last : Nibble) :
    (List.range (last.val + 1)).foldlM checked m = pure ((Nibble.upTo last).foldl plain m) := by
  rw [← Nibble.map_val_upTo, List.foldlM_map]
  exact (Checked.foldlM_eq (P := fun _ => True) (fun r _ m _ => ⟨hstep m r, trivial⟩) trivial).1

theorem executeChecked_eq {m : Machine} (hsmall : m.display.width * m.display.height < wordLimit)
    (keys : Keypad) (address : UInt16) (i : Instruction)
    (hstack : (m.execute keys address i).2.stack.capacity < wordLimit) :
    m.executeChecked keys address i = pure (m.execute keys address i) := by
  unfold executeChecked
  cases i with
  | ret =>
    dsimp only
    rw [CallStack.popChecked_eq, pure_bind]
    rfl
  | call nnn =>
    dsimp only
    rw [CallStack.pushChecked_eq hstack, pure_bind]
    rfl
  | draw x y n =>
    dsimp only
    rw [drawChecked_eq hsmall, pure_bind]
    rfl
  | addIndex x =>
    dsimp only
    rw [addIndexChecked_eq, pure_bind]
    rfl
  | loadGlyph x =>
    dsimp only
    rw [loadGlyphChecked_eq, pure_bind]
    rfl
  | storeDecimal x =>
    dsimp only
    rw [storeDecimalChecked_eq, pure_bind]
    rfl
  | storeRegisters x =>
    dsimp only
    rw [foldlM_transfer_eq storeRegisterChecked_eq, pure_bind]
    rfl
  | loadRegisters x =>
    dsimp only
    rw [foldlM_transfer_eq loadRegisterChecked_eq, pure_bind]
    rfl
  | _ => rfl

theorem fetchChecked_eq {m : Machine} (hpos : 0 < m.memory.size) (hle : m.memory.size ≤ 0x10000) :
    m.fetchChecked = pure (m.nextOpcode, m.advance) := by
  have hlimit : wordLimit = 18446744073709551616 := rfl
  have hhigh : m.registers.pc.toNat % m.memory.size < m.memory.size := Nat.mod_lt _ hpos
  have hnext : (m.registers.pc.toNat % m.memory.size + 2) % m.memory.size < 0x10000 :=
    Nat.lt_of_lt_of_le (Nat.mod_lt _ hpos) hle
  rw [fetchChecked, Checked.rem_eq (by omega), pure_bind, Checked.add_eq (by omega), pure_bind,
    Checked.rem_eq (by omega), pure_bind, Checked.add_eq (by omega), pure_bind,
    Checked.rem_eq (by omega), pure_bind, Checked.word16_eq hnext, pure_bind]
  rfl

theorem cycleChecked_eq {m : Machine} {c : Config} (h : m.Conforms c) (hvalid : c.Valid)
    (hsmall : c.width * c.height < wordLimit) (keys : Keypad)
    (hstack : (m.cycle keys).2.stack.capacity < wordLimit) :
    m.cycleChecked keys = pure (m.cycle keys) := by
  have hpos : 0 < m.memory.size := by rw [h.memorySize]; exact hvalid.memorySize_pos
  have hle : m.memory.size ≤ 0x10000 := by rw [h.memorySize]; exact hvalid.memorySize_le
  have hcells : m.advance.display.width * m.advance.display.height < wordLimit := by
    obtain ⟨hwidth, hheight, -⟩ := h.advance.display
    rwa [hwidth, hheight]
  rw [cycleChecked, fetchChecked_eq hpos hle, pure_bind]
  dsimp only
  rw [executeChecked_eq hcells _ _ _ hstack, pure_bind]
  rfl

theorem tickChecked_eq {m : Machine} {c : Config} (h : m.Conforms c) (hvalid : c.Valid)
    (hsmall : c.width * c.height < wordLimit) (keys : Keypad) (delta : Nat)
    (hstack : (m.tick keys delta).2.stack.capacity < wordLimit) :
    m.tickChecked keys delta = pure (m.tick keys delta) := by
  have htimed := h.timed delta
  rw [tickChecked, Timer.tickChecked_eq, pure_bind, Timer.tickChecked_eq, pure_bind]
  cases hdue : m.clock.due delta with
  | false =>
    rw [tick_of_not_due hdue]
    rfl
  | true =>
    rw [tick_of_due hdue] at hstack ⊢
    have hcycle := cycleChecked_eq htimed hvalid hsmall keys hstack
    show ((m.timed delta).cycleChecked keys >>= fun result => pure (some result.1, result.2)) = _
    rw [hcycle, pure_bind]

end Machine

end Chip8
