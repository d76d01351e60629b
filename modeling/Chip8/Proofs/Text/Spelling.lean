import Chip8.Proofs.Text.Numeral

namespace Chip8.Text

def smallDigitChar (value : Nat) : Char :=
  Char.ofNat (if value < 10 then 48 + value else 87 + value)

structure IsDigit (radix : Nat) (c : Char) (digit : Nat) : Prop where
  digit_lt : digit < radix
  char_eq : c = digitChar digit ∨ c = smallDigitChar digit

-- A digit spells its value, and one digit more moves what was spelled before it
-- up by one place.
inductive Spells (radix : Nat) : List Char → Nat → Prop where
  | digit {c : Char} {digit : Nat} (h : IsDigit radix c digit) : Spells radix [c] digit
  | append {text : List Char} {n : Nat} {c : Char} {digit : Nat} (hleading : Spells radix text n)
      (h : IsDigit radix c digit) : Spells radix (text ++ [c]) (n * radix + digit)

variable {radix n : Nat} {text : List Char}

section Digits

theorem ofNat_add_sub {c : Char} {offset : Nat} (h : offset ≤ c.toNat) :
    Char.ofNat (offset + (c.toNat - offset)) = c := by
  rw [Nat.add_sub_cancel' h, Char.ofNat_toNat]

theorem eq_digitChar_of_digitValue? {c : Char} {digit : Nat} (h : digitValue? c = some digit) :
    c = digitChar digit ∨ c = smallDigitChar digit := by
  unfold digitValue? at h
  split at h
  · rename_i hc
    obtain rfl := Option.some.inj h
    have hlow : 48 ≤ c.toNat := hc.1
    have hhigh : c.toNat ≤ 57 := hc.2
    left
    rw [digitChar, if_pos (by omega), ofNat_add_sub hlow]
  split at h
  · rename_i hc
    obtain rfl := Option.some.inj h
    have hlow : 65 ≤ c.toNat := hc.1
    left
    rw [digitChar, if_neg (by omega), ofNat_add_sub (by omega)]
  split at h
  · rename_i hc
    obtain rfl := Option.some.inj h
    have hlow : 97 ≤ c.toNat := hc.1
    right
    rw [smallDigitChar, if_neg (by omega), ofNat_add_sub (by omega)]
  · cases h

theorem isDigit_of_appendDigit? {value next : Nat} {c : Char}
    (h : appendDigit? radix value c = some next) :
    ∃ digit, IsDigit radix c digit ∧ next = value * radix + digit := by
  unfold appendDigit? at h
  split at h
  · rename_i digit hdigit
    split at h
    · rename_i hlt
      exact ⟨digit, ⟨hlt, eq_digitChar_of_digitValue? hdigit⟩, (Option.some.inj h).symm⟩
    · cases h
  · cases h

theorem Spells.of_foldlM (h : Spells radix text n) {rest : List Char} {m : Nat}
    (hrest : rest.foldlM (appendDigit? radix) n = some m) : Spells radix (text ++ rest) m := by
  induction rest generalizing text n with
  | nil =>
    obtain rfl := Option.some.inj hrest
    rwa [List.append_nil]
  | cons c rest ih =>
    obtain ⟨next, hnext, hrest⟩ := Option.bind_eq_some_iff.mp hrest
    obtain ⟨digit, hdigit, rfl⟩ := isDigit_of_appendDigit? hnext
    rw [List.append_cons]
    exact ih (h.append hdigit) hrest

end Digits

section Reading

variable (hradix : radix ≤ 16)
include hradix

theorem IsDigit.digitValue?_eq {c : Char} {digit : Nat} (h : IsDigit radix c digit) :
    digitValue? c = some digit := by
  have hsmall : ∀ d < 16, digitValue? (smallDigitChar d) = some d := by decide
  have hlt := Nat.lt_of_lt_of_le h.digit_lt hradix
  rcases h.char_eq with rfl | rfl
  · exact digitValue?_digitChar digit hlt
  · exact hsmall digit hlt

theorem IsDigit.appendDigit?_eq {c : Char} {digit : Nat} (h : IsDigit radix c digit)
    (value : Nat) : appendDigit? radix value c = some (value * radix + digit) := by
  rw [appendDigit?, h.digitValue?_eq hradix]
  exact if_pos h.digit_lt

theorem Spells.foldlM_eq (h : Spells radix text n) :
    text.foldlM (appendDigit? radix) 0 = some n := by
  induction h with
  | digit h =>
    rw [List.foldlM_cons, h.appendDigit?_eq hradix, Nat.zero_mul, Nat.zero_add]
    rfl
  | append _ h ih =>
    rw [List.foldlM_append, ih]
    simp [h.appendDigit?_eq hradix]

-- Neither a sign nor the letter that announces a radix is a digit.
theorem Spells.isSome_digitValue? (h : Spells radix text n) :
    ∀ c ∈ text, (digitValue? c).isSome = true := by
  induction h with
  | digit h => simp [h.digitValue?_eq hradix]
  | append _ h ih =>
    intro c hc
    rcases List.mem_append.mp hc with hc | hc
    · exact ih c hc
    · obtain rfl := List.mem_singleton.mp hc
      rw [h.digitValue?_eq hradix]
      rfl

theorem Spells.ne_of_mem (h : Spells radix text n) {c other : Char} (hc : c ∈ text)
    (hother : digitValue? other = none) : c ≠ other := by
  rintro rfl
  have hsome := h.isSome_digitValue? hradix c hc
  rw [hother] at hsome
  exact Bool.noConfusion hsome

theorem natural?_eq_some_iff : natural? radix text = some n ↔ Spells radix text n := by
  constructor
  · intro h
    cases text with
    | nil => cases h
    | cons c rest =>
      obtain ⟨first, hfirst, hrest⟩ := Option.bind_eq_some_iff.mp h
      obtain ⟨digit, hdigit, rfl⟩ := isDigit_of_appendDigit? hfirst
      rw [Nat.zero_mul, Nat.zero_add] at hrest
      exact (Spells.digit hdigit).of_foldlM hrest
  · intro h
    have hne : text ≠ [] := by cases h <;> simp
    rw [natural?_eq_foldlM hne, h.foldlM_eq hradix]

theorem Spells.unsigned?_eq (h : Spells radix text n) : unsigned? radix text = some n := by
  unfold unsigned?
  split
  · exact absurd rfl (h.ne_of_mem hradix (List.mem_cons_self ..) (by decide))
  · exact (natural?_eq_some_iff hradix).mpr h

end Reading

theorem Spells.signed?_eq (h : Spells 10 text n) : signed? text = some (n : Int) := by
  unfold signed?
  split
  · exact absurd rfl (h.ne_of_mem (by omega) (List.mem_cons_self ..) (by decide))
  · rw [h.unsigned?_eq (by omega)]
    rfl

end Chip8.Text
