namespace Chip8.Text

def digitChar (value : Nat) : Char :=
  Char.ofNat (if value < 10 then 48 + value else 55 + value)

-- The digits of `n`; a radix below two has only the one digit.
def digits (radix n : Nat) : List Char :=
  if _ : 2 ≤ radix ∧ radix ≤ n then
    digits radix (n / radix) ++ [digitChar (n % radix)]
  else
    [digitChar n]
termination_by n
decreasing_by exact Nat.div_lt_self (by omega) (by omega)

-- Capital hexadecimal with at least `width` digits; longer numbers are not cut.
def hex (width n : Nat) : String :=
  String.ofList ((digits 16 n).leftpad width '0')

def digitValue? (c : Char) : Option Nat :=
  if '0' ≤ c ∧ c ≤ '9' then some (c.toNat - 48)
  else if 'A' ≤ c ∧ c ≤ 'F' then some (c.toNat - 55)
  else if 'a' ≤ c ∧ c ≤ 'f' then some (c.toNat - 87)
  else none

def appendDigit? (radix value : Nat) (c : Char) : Option Nat :=
  match digitValue? c with
  | some d => if d < radix then some (value * radix + d) else none
  | none => none

def natural? (radix : Nat) : List Char → Option Nat
  | [] => none
  | c :: rest => (c :: rest).foldlM (appendDigit? radix) 0

def unsigned? (radix : Nat) : List Char → Option Nat
  | '+' :: rest => natural? radix rest
  | cs => natural? radix cs

def signed? : List Char → Option Int
  | '-' :: rest => (natural? 10 rest).map fun n => -(n : Int)
  | cs => (unsigned? 10 cs).map fun n => (n : Int)

end Chip8.Text
