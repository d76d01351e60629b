import Chip8.Proofs.Machine.Effect

namespace Chip8.Machine

-- What a cycle can do to the entries in use: a call adds one, a return takes
-- the innermost one as the new program counter, and nothing else touches them.
theorem live_cycle (m : Machine) (keys : Keypad) :
    (∃ target, (m.cycle keys).1.instruction = .call target ∧
        (m.cycle keys).2.stack.live = m.stack.live ++ [m.advance.registers.pc]) ∨
      ((m.cycle keys).1.instruction = .ret ∧
        (m.cycle keys).2.stack.live = m.stack.live.dropLast ∧
        (m.cycle keys).2.registers.pc = m.stack.live.getLast?.getD 0) ∨
      ((∀ target, (m.cycle keys).1.instruction ≠ .call target) ∧
        (m.cycle keys).2.stack.live = m.stack.live) := by
  have hstack := m.advance.stack_execute keys m.registers.pc (.decode m.nextOpcode)
  have hnext : (m.cycle keys).2 =
    (m.advance.execute keys m.registers.pc (.decode m.nextOpcode)).2 := rfl
  have hinstr : (m.cycle keys).1.instruction = .decode m.nextOpcode := rfl
  rw [hinstr, hnext, hstack]
  cases Instruction.decode m.nextOpcode with
  | call target => exact .inl ⟨target, rfl, CallStack.live_push _ _⟩
  | ret => exact .inr (.inl ⟨rfl, CallStack.live_pop _, CallStack.pop_fst _⟩)
  | _ => exact .inr (.inr ⟨fun _ h => Instruction.noConfusion h, rfl⟩)

-- The machine is inside a call that was made with the entries `outer` in use
-- and returns to `address`.
def InCall (m : Machine) (outer : List UInt16) (address : UInt16) : Prop :=
  outer ++ [address] <+: m.stack.live

theorem InCall.length_lt {m : Machine} {outer : List UInt16} {address : UInt16}
    (h : m.InCall outer address) : outer.length < m.stack.live.length := by
  have := h.length_le
  simp only [List.length_append, List.length_singleton] at this
  omega

theorem inCall_cycle_of_call {m : Machine} {keys : Keypad} {target : UInt16}
    (h : (m.cycle keys).1.instruction = .call target) :
    (m.cycle keys).2.InCall m.stack.live m.advance.registers.pc := by
  obtain ⟨_, -, hlive⟩ | ⟨hret, -, -⟩ | ⟨hno, -⟩ := m.live_cycle keys
  · exact ⟨[], by rw [hlive, List.append_nil]⟩
  · simp [hret] at h
  · exact absurd h (hno target)

-- A return inside a call takes the innermost entry, which is the return address
-- of the call only if there is nothing above it.
theorem InCall.cycle {m : Machine} {outer : List UInt16} {address : UInt16}
    (h : m.InCall outer address) (keys : Keypad) :
    (m.cycle keys).2.InCall outer address ∨
      (m.cycle keys).1.instruction = .ret ∧ (m.cycle keys).2.stack.live = outer ∧
        (m.cycle keys).2.registers.pc = address := by
  unfold InCall
  obtain ⟨_, -, hlive⟩ | ⟨hret, hlive, hpc⟩ | ⟨-, hlive⟩ := m.live_cycle keys
  · left
    rw [hlive]
    exact h.trans (List.prefix_append _ _)
  · obtain ⟨inner, hinner⟩ := h
    rw [← hinner] at hlive hpc
    rcases List.eq_nil_or_concat inner with rfl | ⟨rest, last, rfl⟩
    · right
      rw [List.append_nil] at hlive hpc
      rw [List.dropLast_concat] at hlive
      rw [List.getLast?_concat] at hpc
      exact ⟨hret, hlive, hpc⟩
    · left
      rw [hlive, List.concat_eq_append, ← List.append_assoc, List.dropLast_concat]
      exact List.prefix_append _ _
  · left
    rw [hlive]
    exact h

-- Once inside a call, a run stays inside it until the depth is back at that of
-- the caller.
theorem InCall.before {m : Machine} {snapshots : List Keypad} {outer : List UInt16}
    {address : UInt16} {i j : Nat} (h : (m.before snapshots i).InCall outer address)
    (hij : i ≤ j) (hj : j ≤ snapshots.length)
    (hdepth : ∀ k, i < k → k ≤ j → (m.before snapshots k).stack.live.length ≠ outer.length) :
    (m.before snapshots j).InCall outer address := by
  induction hij with
  | refl => exact h
  | @step k hik ih =>
    have hk : k < snapshots.length := by omega
    have hin := ih (by omega) fun n hin hn => hdepth n hin (by omega)
    rcases hin.cycle snapshots[k] with hnext | ⟨-, hlive, -⟩
    · rwa [before_succ m snapshots hk]
    · rw [← before_succ m snapshots hk] at hlive
      have hlength := congrArg List.length hlive
      exact absurd hlength (hdepth (k + 1) (Nat.lt_succ_of_le hik) (Nat.le_refl _))

-- The first return to the depth of a call is the return from that call: it
-- finds the entries of the caller, and goes on behind the call.
theorem first_return_matches_call (m : Machine) (snapshots : List Keypad) {i j : Nat}
    {target : UInt16} (hsize : 0 < m.memory.size) (hij : i < j) (hj : j < snapshots.length)
    (hcall : (m.cycles snapshots)[i]?.map Cycle.instruction = some (.call target))
    (hback : (m.before snapshots (j + 1)).stack.live.length =
      (m.before snapshots i).stack.live.length)
    (hfirst : ∀ k, i < k → k < j → (m.before snapshots (k + 1)).stack.live.length ≠
      (m.before snapshots i).stack.live.length) :
    (m.cycles snapshots)[j]?.map Cycle.instruction = some .ret ∧
      (m.before snapshots (j + 1)).stack.live = (m.before snapshots i).stack.live ∧
      (m.before snapshots (j + 1)).registers.pc =
        UInt16.ofNat (((m.before snapshots i).registers.pc.toNat + 2) % m.memory.size) ∧
      (m.memory.size ≤ 0x10000 → (m.before snapshots (j + 1)).registers.pc.toNat =
        ((m.before snapshots i).registers.pc.toNat + 2) % m.memory.size) := by
  have hi : i < snapshots.length := by omega
  rw [getElem?_cycles, List.getElem?_eq_getElem hi, Option.map_some, Option.map_some,
    Option.some.injEq] at hcall
  have hstart := inCall_cycle_of_call hcall
  rw [← before_succ m snapshots hi] at hstart
  -- between the two cycles the depth is never that of the caller
  have hdepth : ∀ k, i + 1 < k → k ≤ j → (m.before snapshots k).stack.live.length ≠
      (m.before snapshots i).stack.live.length := by
    intro k hik hkj
    obtain ⟨n, rfl⟩ : ∃ n, k = n + 1 := ⟨k - 1, by omega⟩
    exact hfirst n (by omega) (by omega)
  have hin := hstart.before hij (by omega) hdepth
  have hkept : (m.before snapshots i).memory.size = m.memory.size := m.memorySize_after _
  rw [getElem?_cycles, List.getElem?_eq_getElem hj]
  rcases hin.cycle snapshots[j] with hnext | ⟨hret, hlive, hpc⟩
  · rw [← before_succ m snapshots hj] at hnext
    exact absurd hback (Nat.ne_of_gt hnext.length_lt)
  · rw [← before_succ m snapshots hj] at hlive hpc
    have haddress : (m.before snapshots (j + 1)).registers.pc =
        UInt16.ofNat (((m.before snapshots i).registers.pc.toNat + 2) % m.memory.size) := by
      rw [hpc, pc_advance, hkept]
    refine ⟨congrArg some hret, hlive, haddress, fun hle => ?_⟩
    rw [haddress, UInt16.toNat_ofNat']
    exact Nat.mod_eq_of_lt (Nat.lt_of_lt_of_le (Nat.mod_lt _ hsize) hle)

-- A subroutine that faults, waits for a key, calls another one and returns. The
-- inner call needs a slot that the stack does not have yet.
def nestedCalls : Machine :=
  { ofConfig { memorySize := 16, programAddress := 0, fontAddress := 0, stackSize := 1 }
      ⟨Vector.replicate 8 0, 0⟩ with
    memory := ⟨#[0x20, 0x04, 0x10, 0x02, 0xFF, 0xFF, 0xF0, 0x0A, 0x20, 0x0E, 0x00, 0xEE,
      0x00, 0x00, 0x00, 0xEE]⟩ }

def lateKey : List Keypad :=
  [.released, .released, .released, Keypad.released.set 3 true, .released, .released, .released]

theorem first_return_matches_call_nested :
    (nestedCalls.cycles lateKey)[0]?.map Cycle.instruction = some (.call 4) ∧
      (nestedCalls.cycles lateKey)[6]?.map Cycle.instruction = some .ret ∧
      (nestedCalls.before lateKey 7).stack.live = (nestedCalls.before lateKey 0).stack.live ∧
      (nestedCalls.before lateKey 7).registers.pc = 2 := by
  have hcall : (nestedCalls.cycles lateKey)[0]?.map Cycle.instruction = some (.call 4) := by
    decide
  have hdeeper : ∀ k < 6, (nestedCalls.before lateKey (k + 1)).stack.live.length ≠
      (nestedCalls.before lateKey 0).stack.live.length := by decide
  obtain ⟨hret, hlive, hpc, -⟩ := first_return_matches_call nestedCalls lateKey (i := 0) (j := 6)
    (by decide) (by decide) (by decide) hcall (by decide) fun k _ hk => hdeeper k hk
  exact ⟨hcall, hret, hlive, hpc⟩

end Chip8.Machine
