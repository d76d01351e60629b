import Chip8.Text.Numeral
import Mathlib.Algebra.GroupWithZero.Nat

namespace Chip8.Text

theorem digitValue?_digitChar : ∀ d < 16, digitValue? (digitChar d) = some d := by decide

section Digits

variable {radix n : Nat}

theorem digits_of_lt (h : n < radix) : digits radix n = [digitChar n] := by
  rw [digits, dif_neg (by omega)]

theorem digits_of_le (hradix : 2 ≤ radix) (h : radix ≤ n) :
    digits radix n = digits radix (n / radix) ++ [digitChar (n % radix)] := by
  rw [digits, dif_pos ⟨hradix, h⟩]

theorem length_digits_pos : 0 < (digits radix n).length := by
  rw [digits]
  split <;> simp

theorem length_digits_le_iff (hradix : 2 ≤ radix) {k : Nat} (hk : 0 < k) :
    (digits radix n).length ≤ k ↔ n < radix ^ k := by
  induction k generalizing n with
  | zero => omega
  | succ k ih =>
    by_cases h : n < radix
    · have hpow : radix ≤ radix ^ (k + 1) := Nat.le_self_pow (by omega) radix
      rw [digits_of_lt h, List.length_singleton]
      omega
    · rw [digits_of_le hradix (by omega), List.length_append, List.length_singleton,
        Nat.add_le_add_iff_right]
      by_cases hzero : k = 0
      · have hlength := @length_digits_pos radix (n / radix)
        subst hzero
        rw [Nat.zero_add, Nat.pow_one]
        omega
      · rw [ih (by omega), Nat.div_lt_iff_lt_mul (by omega), Nat.pow_succ]

theorem mem_digits (hradix : 2 ≤ radix) {c : Char} (h : c ∈ digits radix n) :
    ∃ d < radix, c = digitChar d := by
  induction n using Nat.strongRecOn with
  | ind n ih =>
    by_cases hn : n < radix
    · rw [digits_of_lt hn, List.mem_singleton] at h
      exact ⟨n, hn, h⟩
    · rw [digits_of_le hradix (by omega), List.mem_append, List.mem_singleton] at h
      rcases h with h | h
      · exact ih (n / radix) (Nat.div_lt_self (by omega) hradix) h
      · exact ⟨n % radix, Nat.mod_lt _ (by omega), h⟩

theorem appendDigit?_digitChar (hradix : radix ≤ 16) {d : Nat} (hd : d < radix) (value : Nat) :
    appendDigit? radix value (digitChar d) = some (value * radix + d) := by
  rw [appendDigit?, digitValue?_digitChar d (by omega)]
  exact if_pos hd

theorem foldlM_digits (hradix : 2 ≤ radix) (hlimit : radix ≤ 16) (value : Nat) :
    (digits radix n).foldlM (appendDigit? radix) value =
      some (value * radix ^ (digits radix n).length + n) := by
  induction n using Nat.strongRecOn with
  | ind n ih =>
    by_cases h : n < radix
    · rw [digits_of_lt h]
      simp [appendDigit?_digitChar hlimit h]
    · have hdigit : n % radix < radix := Nat.mod_lt _ (by omega)
      have hsplit : n / radix * radix + n % radix = n := Nat.div_add_mod' n radix
      rw [digits_of_le hradix (by omega), List.foldlM_append,
        ih (n / radix) (Nat.div_lt_self (by omega) hradix)]
      simp only [Option.bind_eq_bind, Option.bind_some, List.foldlM_cons, List.foldlM_nil,
        appendDigit?_digitChar hlimit hdigit, List.length_append, List.length_singleton,
        Option.pure_def, Option.some.injEq]
      rw [Nat.add_mul, Nat.pow_succ, Nat.add_assoc, hsplit, Nat.mul_assoc]

theorem natural?_eq_foldlM {text : List Char} (h : text ≠ []) :
    natural? radix text = text.foldlM (appendDigit? radix) 0 := by
  cases text with
  | nil => contradiction
  | cons c rest => rfl

theorem natural?_digits (hradix : 2 ≤ radix) (hlimit : radix ≤ 16) :
    natural? radix (digits radix n) = some n := by
  rw [natural?_eq_foldlM (List.ne_nil_of_length_pos length_digits_pos),
    foldlM_digits hradix hlimit, Nat.zero_mul, Nat.zero_add]

end Digits

section Hex

variable {width n : Nat}

theorem toList_hex (width n : Nat) :
    (hex width n).toList =
      List.replicate (width - (digits 16 n).length) '0' ++ digits 16 n := by
  rw [hex, String.toList_ofList, List.leftpad]

theorem toList_hex_one (h : n < 16) : (hex 1 n).toList = [digitChar n] := by
  rw [toList_hex, digits_of_lt h]
  rfl

theorem foldlM_zeros (radix : Nat) (hradix : 0 < radix) (count : Nat) :
    (List.replicate count '0').foldlM (appendDigit? radix) 0 = some 0 := by
  induction count with
  | zero => rfl
  | succ count ih =>
    have hzero : appendDigit? radix 0 '0' = some 0 := by
      show (if 0 < radix then some (0 * radix + 0) else none) = some 0
      rw [if_pos hradix, Nat.zero_mul]
    rw [List.replicate_succ, List.foldlM_cons, hzero]
    exact ih

theorem natural?_hex (width n : Nat) : natural? 16 (hex width n).toList = some n := by
  have hpos := @length_digits_pos 16 n
  rw [natural?_eq_foldlM, toList_hex, List.foldlM_append, foldlM_zeros 16 (by omega)]
  · simpa using foldlM_digits (n := n) (by omega : 2 ≤ 16) (Nat.le_refl 16) 0
  · rw [toList_hex]
    apply List.ne_nil_of_length_pos
    rw [List.length_append]
    omega

theorem length_hex (width n : Nat) :
    (hex width n).toList.length = max width (digits 16 n).length := by
  rw [toList_hex, List.length_append, List.length_replicate]
  omega

theorem length_hex_le_iff {k : Nat} (hk : 0 < k) (hwidth : width ≤ k) :
    (hex width n).toList.length ≤ k ↔ n < 16 ^ k := by
  rw [length_hex, ← length_digits_le_iff (by omega : 2 ≤ 16) hk]
  omega

theorem mem_hex {c : Char} (h : c ∈ (hex width n).toList) : ∃ d < 16, c = digitChar d := by
  rw [toList_hex, List.mem_append, List.mem_replicate] at h
  rcases h with ⟨-, rfl⟩ | h
  · exact ⟨0, by omega, rfl⟩
  · exact mem_digits (by omega : 2 ≤ 16) h

end Hex

theorem digitChar_ne_blank : ∀ d < 16, digitChar d ≠ ' ' := by decide

theorem takeWhile_word {word rest : List Char} (hword : ∀ c ∈ word, c ≠ ' ')
    (hrest : ∀ c ∈ rest.head?, c = ' ') : (word ++ rest).takeWhile (· ≠ ' ') = word := by
  rw [List.takeWhile_append_of_pos (by simpa using hword)]
  cases rest with
  | nil => simp
  | cons c rest => simp [hrest c rfl]

-- Decimal numbers as the standard library writes them.
theorem digits_ten (n : Nat) : digits 10 n = Nat.toDigits 10 n := by
  have hchar : ∀ d < 10, digitChar d = Nat.digitChar d := by decide
  induction n using Nat.strongRecOn with
  | ind n ih =>
    rw [Nat.toDigits_eq_if (by omega)]
    split
    · rename_i h
      rw [digits_of_lt h, hchar n h]
    · rw [digits_of_le (by omega) (by omega), ih (n / 10) (by omega),
        hchar (n % 10) (by omega)]

theorem natural?_toString (n : Nat) : natural? 10 (toString n).toList = some n := by
  rw [Nat.toString_eq_ofList_toDigits, String.toList_ofList, ← digits_ten]
  exact natural?_digits (by omega) (by omega)

theorem mem_toString {n : Nat} {c : Char} (h : c ∈ (toString n).toList) :
    ∃ d < 10, c = digitChar d := by
  rw [Nat.toString_eq_ofList_toDigits, String.toList_ofList, ← digits_ten] at h
  exact mem_digits (by omega) h

end Chip8.Text
