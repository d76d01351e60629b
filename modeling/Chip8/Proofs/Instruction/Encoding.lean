import Chip8.Instruction.Basic
import Mathlib.Logic.Function.Basic

namespace Chip8

-- An instruction of the table, with operands that fit the digits of its word.
-- The register of Bnnn is the top digit of its address.
def Instruction.Supported : Instruction → Prop
  | .jump nnn | .call nnn | .loadIndex nnn => nnn.toNat < 4096
  | .jumpOffset x nnn => nnn.toNat < 4096 ∧ x.val = nnn.toNat / 256
  | .unknown _ => False
  | _ => True

def Opcode.Supported (w : Opcode) : Prop := ∃ i : Instruction, i.Supported ∧ i.encode = w

namespace Opcode

theorem toNat_eq_digits (w : Opcode) :
    w.toNat = w.family.val * 4096 + w.x.val * 256 + w.y.val * 16 + w.n.val := by
  have hw := w.toNat_lt
  show w.toNat =
    w.toNat / 4096 % 16 * 4096 + w.toNat / 256 % 16 * 256 + w.toNat / 16 % 16 * 16 + w.toNat % 16
  omega

theorem toNat_nn (w : Opcode) : w.nn.toNat = w.y.val * 16 + w.n.val := by
  show (UInt8.ofNat (w.toNat % 256)).toNat = w.toNat / 16 % 16 * 16 + w.toNat % 16
  rw [UInt8.toNat_ofNat']
  omega

theorem toNat_nnn (w : Opcode) : w.nnn.toNat = w.x.val * 256 + w.y.val * 16 + w.n.val := by
  show (UInt16.ofNat (w.toNat % 4096)).toNat =
    w.toNat / 256 % 16 * 256 + w.toNat / 16 % 16 * 16 + w.toNat % 16
  rw [UInt16.toNat_ofNat']
  omega

theorem toNat_nnn_lt (w : Opcode) : w.nnn.toNat < 4096 := by
  have hx := w.x.val_lt
  have hy := w.y.val_lt
  have hn := w.n.val_lt
  rw [w.toNat_nnn]
  omega

theorem x_eq_nnn_div (w : Opcode) : w.x.val = w.nnn.toNat / 256 := by
  have hy := w.y.val_lt
  have hn := w.n.val_lt
  rw [w.toNat_nnn]
  omega

theorem digits_eq {w : Opcode} {family x y n : Nat} (hfamily : family < 16) (hx : x < 16)
    (hy : y < 16) (hn : n < 16) (h : w.toNat = family * 4096 + x * 256 + y * 16 + n) :
    w.family.val = family ∧ w.x.val = x ∧ w.y.val = y ∧ w.n.val = n := by
  show w.toNat / 4096 % 16 = family ∧ w.toNat / 256 % 16 = x ∧ w.toNat / 16 % 16 = y ∧
    w.toNat % 16 = n
  omega

end Opcode

namespace AluOp

theorem ofCode?_code (op : AluOp) : ofCode? op.code = some op := by
  cases op <;> rfl

theorem code_of_ofCode? {code : Nibble} {op : AluOp} (h : ofCode? code = some op) :
    op.code = code := by
  have hall : ∀ code : Nibble, (ofCode? code).all (·.code = code) = true := by decide
  simpa [h] using hall code

end AluOp

namespace Instruction

section Words

variable {family : Nat}

theorem fields_wordXNN (hfamily : family < 16) (x : Nibble) {nn : Nat} (hnn : nn < 256) :
    (wordXNN family x nn).family.val = family ∧ (wordXNN family x nn).x = x ∧
      (wordXNN family x nn).nn.toNat = nn := by
  have hx := x.val_lt
  have hword : (wordXNN family x nn).toNat =
      family * 4096 + x.val * 256 + nn / 16 * 16 + nn % 16 := by
    rw [wordXNN, UInt16.toNat_ofNat']
    omega
  obtain ⟨h, hx', hy, hn⟩ := Opcode.digits_eq hfamily hx (by omega) (by omega) hword
  refine ⟨h, Fin.ext hx', ?_⟩
  rw [Opcode.toNat_nn, hy, hn]
  omega

theorem fields_wordXYN (hfamily : family < 16) (x y n : Nibble) :
    (wordXYN family x y n).family.val = family ∧ (wordXYN family x y n).x = x ∧
      (wordXYN family x y n).y = y ∧ (wordXYN family x y n).n = n := by
  have hx := x.val_lt
  have hy := y.val_lt
  have hn := n.val_lt
  have hword : (wordXYN family x y n).toNat =
      family * 4096 + x.val * 256 + y.val * 16 + n.val := by
    rw [wordXYN, UInt16.toNat_ofNat']
    omega
  obtain ⟨h, hx', hy', hn'⟩ := Opcode.digits_eq hfamily hx hy hn hword
  exact ⟨h, Fin.ext hx', Fin.ext hy', Fin.ext hn'⟩

theorem fields_wordNNN (hfamily : family < 16) {nnn : UInt16} (hnnn : nnn.toNat < 4096) :
    (wordNNN family nnn).family.val = family ∧ (wordNNN family nnn).nnn = nnn ∧
      (wordNNN family nnn).x.val = nnn.toNat / 256 := by
  have hword : (wordNNN family nnn).toNat =
      family * 4096 + nnn.toNat / 256 * 256 + nnn.toNat / 16 % 16 * 16 + nnn.toNat % 16 := by
    rw [wordNNN, UInt16.toNat_ofNat']
    omega
  obtain ⟨h, hx, hy, hn⟩ := Opcode.digits_eq hfamily (by omega) (by omega) (by omega) hword
  refine ⟨h, UInt16.toNat_inj.mp ?_, hx⟩
  rw [Opcode.toNat_nnn, hx, hy, hn]
  omega

variable {w : Opcode} (h : w.family.val = family)

include h

theorem wordXYN_fields {n : Nibble} (hn : w.n = n) : wordXYN family w.x w.y n = w := by
  rw [wordXYN, ← hn, ← h, ← w.toNat_eq_digits, UInt16.ofNat_toNat]

theorem wordXNN_fields {nn : Nat} (hnn : w.nn.toNat = nn) : wordXNN family w.x nn = w := by
  rw [wordXNN, ← hnn, w.toNat_nn, ← Nat.add_assoc]
  exact wordXYN_fields h rfl

theorem wordNNN_fields : wordNNN family w.nnn = w := by
  rw [wordNNN, w.toNat_nnn, ← Nat.add_assoc, ← Nat.add_assoc]
  exact wordXYN_fields h rfl

end Words

-- Decoding reads the operands of a form at the digits that encoding writes them
-- to.
section Forms

variable {family : Nat}

theorem decode_wordXNN {form : Nibble → UInt8 → Instruction} (hfamily : family < 16)
    (hform : ∀ w : Opcode, w.family.val = family → decode w = form w.x w.nn) (x : Nibble)
    (nn : UInt8) : decode (wordXNN family x nn.toNat) = form x nn := by
  obtain ⟨h, hx, hnn⟩ := fields_wordXNN hfamily x nn.toNat_lt
  rw [hform _ h, hx, UInt8.toNat_inj.mp hnn]

theorem decode_wordNNN {form : UInt16 → Instruction} (hfamily : family < 16)
    (hform : ∀ w : Opcode, w.family.val = family → decode w = form w.nnn) {nnn : UInt16}
    (hnnn : nnn.toNat < 4096) : decode (wordNNN family nnn) = form nnn := by
  obtain ⟨h, hnnn', -⟩ := fields_wordNNN hfamily hnnn
  rw [hform _ h, hnnn']

theorem decode_keyWord {form : Nibble → Instruction} {nn : Nat} (hnn : nn < 256)
    (hform : ∀ w : Opcode, w.nn.toNat = nn → ofKeyWord w = form w.x) (x : Nibble) :
    decode (wordXNN 0xE x nn) = form x := by
  obtain ⟨h, hx, hnn'⟩ := fields_wordXNN (show 0xE < 16 by decide) x hnn
  simp only [decode, h, hform _ hnn', hx]

theorem decode_systemWord {form : Nibble → Instruction} {nn : Nat} (hnn : nn < 256)
    (hform : ∀ w : Opcode, w.nn.toNat = nn → ofSystemWord w = form w.x) (x : Nibble) :
    decode (wordXNN 0xF x nn) = form x := by
  obtain ⟨h, hx, hnn'⟩ := fields_wordXNN (show 0xF < 16 by decide) x hnn
  simp only [decode, h, hform _ hnn', hx]

end Forms

theorem decode_encode {i : Instruction} (hi : i.Supported) : decode i.encode = i := by
  cases i with
  | clearDisplay | ret => decide
  | jump nnn | call nnn | loadIndex nnn =>
    exact decode_wordNNN (by decide) (fun w h => by simp only [decode, h]) hi
  | jumpOffset x nnn =>
    obtain ⟨h, hnnn, hx⟩ := fields_wordNNN (show 0xB < 16 by decide) hi.1
    have hx' : (wordNNN 0xB nnn).x = x := Fin.ext (hx.trans hi.2.symm)
    simp only [encode, decode, h, hnnn, hx']
  | skipIfEqual x nn | skipIfNotEqual x nn | load x nn | add x nn | random x nn =>
    exact decode_wordXNN (by decide) (fun w h => by simp only [decode, h]) x nn
  | skipIfSame x y =>
    obtain ⟨h, hx, hy, hn⟩ := fields_wordXYN (show 0x5 < 16 by decide) x y 0
    simp only [encode, decode, h, hx, hy, hn, if_pos]
  | skipIfDifferent x y =>
    obtain ⟨h, hx, hy, hn⟩ := fields_wordXYN (show 0x9 < 16 by decide) x y 0
    simp only [encode, decode, h, hx, hy, hn, if_pos]
  | alu x y op =>
    obtain ⟨h, hx, hy, hn⟩ := fields_wordXYN (show 0x8 < 16 by decide) x y op.code
    simp only [encode, decode, h, hx, hy, hn, AluOp.ofCode?_code]
  | draw x y n =>
    obtain ⟨h, hx, hy, hn⟩ := fields_wordXYN (show 0xD < 16 by decide) x y n
    simp only [encode, decode, h, hx, hy, hn]
  | skipIfPressed x | skipIfReleased x =>
    exact decode_keyWord (by decide) (fun w h => by simp only [ofKeyWord, h]) x
  | readDelay x | waitForKey x | setDelay x | setSound x | addIndex x | loadGlyph x
  | storeDecimal x | storeRegisters x | loadRegisters x =>
    exact decode_systemWord (by decide) (fun w h => by simp only [ofSystemWord, h]) x
  | unknown w => exact hi.elim

def ReadFrom (i : Instruction) (w : Opcode) : Prop :=
  i = .unknown w ∨ i.Supported ∧ i.encode = w

theorem ofKeyWord_readFrom {w : Opcode} (h : w.family.val = 0xE) : (ofKeyWord w).ReadFrom w := by
  unfold ofKeyWord
  split
  case h_1 hnn => exact .inr ⟨trivial, wordXNN_fields h hnn⟩
  case h_2 hnn => exact .inr ⟨trivial, wordXNN_fields h hnn⟩
  case h_3 => exact .inl rfl

theorem ofSystemWord_readFrom {w : Opcode} (h : w.family.val = 0xF) : (ofSystemWord w).ReadFrom w := by
  unfold ofSystemWord
  split
  case h_10 => exact .inl rfl
  all_goals
    rename_i hnn
    exact .inr ⟨trivial, wordXNN_fields h hnn⟩

theorem decode_readFrom (w : Opcode) : (decode w).ReadFrom w := by
  unfold decode
  split
  case h_1 =>
    split
    · rename_i hw
      exact .inr ⟨trivial, hw.symm⟩
    split
    · rename_i hw
      exact .inr ⟨trivial, hw.symm⟩
    · exact .inl rfl
  case h_2 h => exact .inr ⟨w.toNat_nnn_lt, wordNNN_fields h⟩
  case h_3 h => exact .inr ⟨w.toNat_nnn_lt, wordNNN_fields h⟩
  case h_4 h => exact .inr ⟨trivial, wordXNN_fields h rfl⟩
  case h_5 h => exact .inr ⟨trivial, wordXNN_fields h rfl⟩
  case h_6 h =>
    split
    · rename_i hn
      exact .inr ⟨trivial, wordXYN_fields h hn⟩
    · exact .inl rfl
  case h_7 h => exact .inr ⟨trivial, wordXNN_fields h rfl⟩
  case h_8 h => exact .inr ⟨trivial, wordXNN_fields h rfl⟩
  case h_9 h =>
    split
    · rename_i hop
      exact .inr ⟨trivial, wordXYN_fields h (AluOp.code_of_ofCode? hop).symm⟩
    · exact .inl rfl
  case h_10 h =>
    split
    · rename_i hn
      exact .inr ⟨trivial, wordXYN_fields h hn⟩
    · exact .inl rfl
  case h_11 h => exact .inr ⟨w.toNat_nnn_lt, wordNNN_fields h⟩
  case h_12 h => exact .inr ⟨⟨w.toNat_nnn_lt, w.x_eq_nnn_div⟩, wordNNN_fields h⟩
  case h_13 h => exact .inr ⟨trivial, wordXNN_fields h rfl⟩
  case h_14 h => exact .inr ⟨trivial, wordXYN_fields h rfl⟩
  case h_15 h => exact ofKeyWord_readFrom h
  case h_16 =>
    -- no family below this one has matched
    have hfamily := w.family.val_lt
    exact ofSystemWord_readFrom (by grind)

theorem decode_eq_unknown_iff {w : Opcode} : decode w = .unknown w ↔ ¬ w.Supported := by
  constructor
  · rintro hunknown ⟨i, hi, rfl⟩
    rw [decode_encode hi] at hunknown
    rw [hunknown] at hi
    exact hi
  · intro hno
    exact (decode_readFrom w).resolve_right fun h => hno ⟨decode w, h⟩

-- An unknown word is its own encoding, so no word loses a digit when it is
-- decoded.
theorem encode_decode (w : Opcode) : (decode w).encode = w := by
  rcases decode_readFrom w with hunknown | ⟨-, hencode⟩
  · rw [hunknown]
    rfl
  · exact hencode

theorem supported_decode_iff (w : Opcode) : (decode w).Supported ↔ w.Supported := by
  constructor
  · intro h
    exact ⟨decode w, h, encode_decode w⟩
  · rintro ⟨i, hi, rfl⟩
    rwa [decode_encode hi]

-- Decoding reads the table backwards. A word is the encoding of what it decodes
-- to, or it is unknown and the table has no instruction for it; every
-- instruction of the table is decoded from its encoding; and no two words decode
-- alike.
theorem decode_reads_table :
    (∀ w : Opcode,
      (decode w).Supported ∧ (decode w).encode = w ∨ decode w = .unknown w ∧ ¬ w.Supported) ∧
    (∀ i : Instruction, i.Supported → decode i.encode = i) ∧
    (∀ w : Opcode, (decode w).Supported ↔ w.Supported) ∧
    Function.LeftInverse encode decode ∧
    Function.Injective decode := by
  refine ⟨?_, fun i hi => decode_encode hi, supported_decode_iff, encode_decode,
    Function.LeftInverse.injective encode_decode⟩
  intro w
  by_cases hw : w.Supported
  · exact .inl ⟨(supported_decode_iff w).mpr hw, encode_decode w⟩
  · exact .inr ⟨decode_eq_unknown_iff.mpr hw, hw⟩

-- The register of Bnnn is read twice, and 8xy8 is a hole in the table.
theorem decode_reads_table_jumpOffset :
    (jumpOffset 0x3 0x3CD).Supported ∧ decode 0xB3CD = jumpOffset 0x3 0x3CD ∧
      ¬ Opcode.Supported 0x8AB8 := by
  obtain ⟨-, htable, haccepts, -, -⟩ := decode_reads_table
  have hsupported : (jumpOffset 0x3 0x3CD).Supported := ⟨by decide, by decide⟩
  have hhole : decode 0x8AB8 = .unknown 0x8AB8 := by decide
  refine ⟨hsupported, htable _ hsupported, fun hword => ?_⟩
  rw [← haccepts, hhole] at hword
  exact hword

end Instruction

end Chip8
