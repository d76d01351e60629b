import Chip8.Proofs.Machine.Effect

namespace Chip8

namespace AluOp

def carries : AluOp → Bool
  | .add | .sub | .subReverse | .shiftRight | .shiftLeft => true
  | .assign | .or | .and | .xor => false

def clearsFlag (d : Dialect) : AluOp → Bool
  | .or | .and | .xor => d.logicClearsFlag
  | _ => false

def shifted (d : Dialect) (vx vy : UInt8) : UInt8 := if d.shiftsVy then vy else vx

-- The equation of an operation: the flag is the carry of a sum, it is zero for
-- the borrow of a difference, and it is the bit that a shift moves out.
def Equation (d : Dialect) (op : AluOp) (vx vy : UInt8) (value flag : Nat) : Prop :=
  match op with
  | .add => 256 * flag + value = vx.toNat + vy.toNat
  | .sub => (value : Int) = vx.toNat - vy.toNat + 256 * (1 - flag)
  | .subReverse => (value : Int) = vy.toNat - vx.toNat + 256 * (1 - flag)
  | .shiftRight => 2 * value + flag = (shifted d vx vy).toNat
  | .shiftLeft => 256 * flag + value = 2 * (shifted d vx vy).toNat
  | .assign | .or | .and | .xor => False

structure Solves (d : Dialect) (op : AluOp) (vx vy : UInt8) (value flag : Nat) : Prop where
  value_lt : value < 256
  flag_le : flag ≤ 1
  equation : op.Equation d vx vy value flag

def Combines (op : AluOp) (vx vy value : UInt8) : Prop :=
  match op with
  | .assign => value = vy
  | .or => ∀ k, value.toNat.testBit k = (vx.toNat.testBit k || vy.toNat.testBit k)
  | .and => ∀ k, value.toNat.testBit k = (vx.toNat.testBit k && vy.toNat.testBit k)
  | .xor => ∀ k, value.toNat.testBit k = (vx.toNat.testBit k ^^ vy.toNat.testBit k)
  | .add | .sub | .subReverse | .shiftRight | .shiftLeft => False

section Evaluation

variable {d : Dialect} {op : AluOp} {vx vy : UInt8}

-- Two solutions of one equation are the same: a flag the other way would move
-- the value out of the range of a byte.
theorem Solves.unique {value flag value' flag' : Nat} (h : op.Solves d vx vy value flag)
    (h' : op.Solves d vx vy value' flag') : value = value' ∧ flag = flag' := by
  obtain ⟨hvalue, hflag, hequation⟩ := h
  obtain ⟨hvalue', hflag', hequation'⟩ := h'
  cases op <;> simp only [Equation] at hequation hequation' <;> omega

theorem toNat_shiftRight_one (a : UInt8) : (a >>> 1).toNat = a.toNat / 2 := by
  simp [UInt8.toNat_shiftRight, Nat.shiftRight_eq_div_pow]

theorem toNat_shiftLeft_one (a : UInt8) : (a <<< 1).toNat = 2 * a.toNat % 256 := by
  simp [UInt8.toNat_shiftLeft, Nat.shiftLeft_eq, Nat.mul_comm]

theorem add_carry (a b : UInt8) :
    256 * (decide (256 ≤ a.toNat + b.toNat)).toNat + (a + b).toNat = a.toNat + b.toNat := by
  have ha := a.toNat_lt
  have hb := b.toNat_lt
  by_cases h : 256 ≤ a.toNat + b.toNat <;> simp [h, UInt8.toNat_add] <;> omega

theorem sub_borrow (a b : UInt8) :
    ((a - b).toNat : Int) = a.toNat - b.toNat + 256 * (1 - (decide (b ≤ a)).toNat) := by
  have ha := a.toNat_lt
  have hb := b.toNat_lt
  by_cases h : b.toNat ≤ a.toNat
  · have hle : b ≤ a := UInt8.le_iff_toNat_le.mpr h
    rw [UInt8.toNat_sub_of_le _ _ hle]
    simp only [hle, decide_true, Bool.toNat_true]
    omega
  · have hle : ¬ b ≤ a := mt UInt8.le_iff_toNat_le.mp h
    rw [UInt8.toNat_sub]
    simp only [hle, decide_false, Bool.toNat_false]
    omega

theorem shiftRight_bit (a : UInt8) : 2 * (a >>> 1).toNat + (a.toNat.testBit 0).toNat = a.toNat := by
  rw [toNat_shiftRight_one, Nat.toNat_testBit]
  omega

theorem shiftLeft_bit (a : UInt8) :
    256 * (a.toNat.testBit 7).toNat + (a <<< 1).toNat = 2 * a.toNat := by
  have ha := a.toNat_lt
  rw [toNat_shiftLeft_one, Nat.toNat_testBit]
  omega

theorem eval_of_carries (d : Dialect) (vx vy : UInt8) (h : op.carries = true) :
    ∃ value flag, op.eval d vx vy = (value, some flag) ∧
      op.Solves d vx vy value.toNat flag.toNat := by
  have hsolves {value : UInt8} {flag : Bool}
      (hequation : op.Equation d vx vy value.toNat flag.toNat) :
      op.Solves d vx vy value.toNat flag.toNat :=
    ⟨value.toNat_lt, flag.toNat_le, hequation⟩
  cases op with
  | add => exact ⟨_, _, rfl, hsolves (add_carry vx vy)⟩
  | sub => exact ⟨_, _, rfl, hsolves (sub_borrow vx vy)⟩
  | subReverse => exact ⟨_, _, rfl, hsolves (sub_borrow vy vx)⟩
  | shiftRight => exact ⟨_, _, rfl, hsolves (shiftRight_bit (shifted d vx vy))⟩
  | shiftLeft => exact ⟨_, _, rfl, hsolves (shiftLeft_bit (shifted d vx vy))⟩
  | assign | or | and | xor => exact absurd h Bool.noConfusion

theorem eval_of_not_carries (d : Dialect) (vx vy : UInt8) (h : op.carries = false) :
    ∃ value, op.eval d vx vy = (value, if op.clearsFlag d then some false else none) ∧
      op.Combines vx vy value := by
  cases op with
  | assign => exact ⟨_, rfl, rfl⟩
  | or => exact ⟨_, rfl, fun k => by simp⟩
  | and => exact ⟨_, rfl, fun k => by simp⟩
  | xor => exact ⟨_, rfl, fun k => by simp⟩
  | add | sub | subReverse | shiftRight | shiftLeft => exact absurd h Bool.noConfusion

end Evaluation

end AluOp

namespace Machine

-- The second machine is the first one with 8xyN done to its registers. Vx and Vy
-- are those from before; where Vx is VF, the flag is all that is left of a
-- solution.
structure ComputesAlu (m : Machine) (x y : Nibble) (op : AluOp) (next : Machine) : Prop where
  solved : op.carries = true → x ≠ Registers.flagRegister →
    op.Solves m.dialect (m.get x) (m.get y) (next.get x).toNat
      (next.get Registers.flagRegister).toNat
  solved_flag : op.carries = true → x = Registers.flagRegister →
    ∃ value, op.Solves m.dialect (m.get x) (m.get y) value (next.get Registers.flagRegister).toNat
  combined : op.carries = false → x ≠ Registers.flagRegister →
    op.Combines (m.get x) (m.get y) (next.get x) ∧
      next.get Registers.flagRegister =
        if op.clearsFlag m.dialect then 0 else m.get Registers.flagRegister
  combined_flag : op.carries = false → x = Registers.flagRegister →
    if op.clearsFlag m.dialect then next.get Registers.flagRegister = 0
    else op.Combines (m.get x) (m.get y) (next.get Registers.flagRegister)
  get_eq : ∀ r, r ≠ x → r ≠ Registers.flagRegister → next.get r = m.get r
  next_eq : next = { m with registers := { m.registers with v := next.registers.v } }

section Computing

variable {m : Machine} {x y : Nibble} {op : AluOp}

theorem alu_eq_of_flag {value : UInt8} {flag : Bool}
    (h : op.eval m.dialect (m.get x) (m.get y) = (value, some flag)) :
    m.alu x y op = (m.set x value).setFlag flag := by
  rw [alu, h]

theorem alu_eq_of_no_flag {value : UInt8}
    (h : op.eval m.dialect (m.get x) (m.get y) = (value, none)) : m.alu x y op = m.set x value := by
  rw [alu, h]

theorem toNat_flag (flag : Bool) : (if flag then 1 else 0 : UInt8).toNat = flag.toNat := by
  cases flag <;> rfl

theorem computesAlu_of_carries (h : op.carries = true) : m.ComputesAlu x y op (m.alu x y op) := by
  obtain ⟨value, flag, heval, hsolves⟩ := AluOp.eval_of_carries m.dialect (m.get x) (m.get y) h
  have hflag : ((m.alu x y op).get Registers.flagRegister).toNat = flag.toNat := by
    rw [alu_eq_of_flag heval, get_setFlag, if_pos rfl, toNat_flag]
  have hother (r : Nibble) (hr : r ≠ Registers.flagRegister) :
      (m.alu x y op).get r = if r = x then value else m.get r := by
    rw [alu_eq_of_flag heval, get_setFlag, if_neg hr, get_set]
  have hno : op.carries ≠ false := by simp [h]
  refine ⟨?_, ?_, ?_, ?_, ?_, ?_⟩
  · intro _ hx
    rw [hother x hx, if_pos rfl, hflag]
    exact hsolves
  · intro _ _
    rw [hflag]
    exact ⟨value.toNat, hsolves⟩
  · exact fun hcombines => absurd hcombines hno
  · exact fun hcombines => absurd hcombines hno
  · intro r hx hr
    rw [hother r hr, if_neg hx]
  · rw [alu_eq_of_flag heval]
    rfl

theorem computesAlu_of_not_carries (h : op.carries = false) :
    m.ComputesAlu x y op (m.alu x y op) := by
  obtain ⟨value, heval, hcombines⟩ := AluOp.eval_of_not_carries m.dialect (m.get x) (m.get y) h
  have hno : op.carries ≠ true := by simp [h]
  cases hclears : op.clearsFlag m.dialect with
  | true =>
    rw [hclears, if_pos rfl] at heval
    rw [alu_eq_of_flag heval]
    refine ⟨fun hcarries => absurd hcarries hno, fun hcarries => absurd hcarries hno, ?_, ?_, ?_,
      rfl⟩
    · intro _ hx
      simpa [get_setFlag, get_set, hx, hclears] using hcombines
    · intro _ _
      simp [get_setFlag, hclears]
    · intro r hx hr
      simp [get_setFlag, get_set, hx, hr]
  | false =>
    rw [hclears, if_neg Bool.false_ne_true] at heval
    rw [alu_eq_of_no_flag heval]
    refine ⟨fun hcarries => absurd hcarries hno, fun hcarries => absurd hcarries hno, ?_, ?_, ?_,
      rfl⟩
    · intro _ hx
      simpa [get_set, hx.symm, hclears] using hcombines
    · intro _ hx
      simpa [get_set, hx, hclears] using hcombines
    · intro r hx _
      simp [get_set, hx]

theorem computesAlu (m : Machine) (x y : Nibble) (op : AluOp) :
    m.ComputesAlu x y op (m.alu x y op) := by
  cases h : op.carries with
  | true => exact computesAlu_of_carries h
  | false => exact computesAlu_of_not_carries h

end Computing

-- A sum, a difference or a shift leaves the one solution of its equation in Vx
-- and VF, and the other operations leave their value in Vx and, in a dialect
-- where they do so, zero in VF. VF is written last.
theorem alu_solves_equations (m : Machine) (keys : Keypad) (address : UInt16) (x y : Nibble)
    (op : AluOp) :
    (m.execute keys address (.alu x y op)).1 = .done ∧
      m.ComputesAlu x y op (m.execute keys address (.alu x y op)).2 ∧
      ∀ value flag value' flag', op.Solves m.dialect (m.get x) (m.get y) value flag →
        op.Solves m.dialect (m.get x) (m.get y) value' flag' → value = value' ∧ flag = flag' :=
  ⟨rfl, m.computesAlu x y op, fun _ _ _ _ h h' => h.unique h'⟩

end Machine

end Chip8
