/-
  Numerals in a positional system.

  Ids, terms, ports and format versions are written as decimal numerals; registry files may also
  use the hexadecimal, octal and binary ones.  Writing gives the one numeral without leading zeros;
  reading takes any non-empty run of digits and says nothing about size, so that each reader sets
  its own bound.
-/

namespace QuorumRescue.Numeral

/-- The digit of value `d`; values from ten on are written with small letters. -/
def digitChar (d : Nat) : Char :=
  if d < 10 then Char.ofNat (48 + d) else Char.ofNat (87 + d)

/-- The value of a digit; letters of either case count from ten. -/
def digitValue (c : Char) : Option Nat :=
  let n := c.toNat
  if 48 ≤ n ∧ n ≤ 57 then some (n - 48)
  else if 97 ≤ n ∧ n ≤ 122 then some (n - 87)
  else if 65 ≤ n ∧ n ≤ 90 then some (n - 55)
  else none

/-- The value of a digit of the system with the given base. -/
def digitValueIn (base : Nat) (c : Char) : Option Nat :=
  (digitValue c).filter (· < base)

/-- A decimal digit. -/
def isDigit (c : Char) : Bool := (digitValueIn 10 c).isSome

/-- The decimal numeral of `n`, most significant digit first, without leading zeros. -/
def decimal (n : Nat) : List Char :=
  if n < 10 then [digitChar n] else decimal (n / 10) ++ [digitChar (n % 10)]

/-- Reads on from a number already read. -/
def valueFrom (base : Nat) : Nat → List Char → Option Nat
  | n, [] => some n
  | n, c :: rest =>
      match digitValueIn base c with
      | some d => valueFrom base (n * base + d) rest
      | none => none

/-- The value of a non-empty run of digits. -/
def value (base : Nat) : List Char → Option Nat
  | [] => none
  | c :: rest => valueFrom base 0 (c :: rest)

/-- The decimal numeral as a string. -/
def toText (n : Nat) : String := String.ofList (decimal n)

/-- The value of a decimal numeral that fits into 64 bits. -/
def word (digits : List Char) : Option UInt64 :=
  match value 10 digits with
  | some n => if n < UInt64.size then some (UInt64.ofNat n) else none
  | none => none

/-- The hexadecimal numeral of `n` with at least one digit. -/
def hexadecimal (n : Nat) : List Char :=
  if n < 16 then [digitChar n] else hexadecimal (n / 16) ++ [digitChar (n % 16)]

/-! ## Reading undoes writing -/

theorem digitValueIn_digitChar {d : Nat} (h : d < 10) : digitValueIn 10 (digitChar d) = some d := by
  match d, h with
  | 0, _ | 1, _ | 2, _ | 3, _ | 4, _ | 5, _ | 6, _ | 7, _ | 8, _ | 9, _ => rfl

theorem decimal_ne_nil (n : Nat) : decimal n ≠ [] := by
  rw [decimal]; split <;> simp

/-- Digits can be read in two stretches, the second on top of the value of the first. -/
theorem valueFrom_append {base n : Nat} {a b : List Char} :
    valueFrom base n (a ++ b) = (valueFrom base n a).bind (valueFrom base · b) := by
  induction a generalizing n with
  | nil => simp [valueFrom]
  | cons c rest ih =>
    simp only [List.cons_append, valueFrom]
    cases digitValueIn base c <;> simp [ih]

/-- **The digits of a number are read as the number.** -/
theorem valueFrom_decimal (n : Nat) : valueFrom 10 0 (decimal n) = some n := by
  induction n using Nat.strongRecOn with
  | ind n ih =>
    rw [decimal]
    split
    · next h => simp [valueFrom, digitValueIn_digitChar h]
    · next h =>
      rw [valueFrom_append, ih (n / 10) (by omega)]
      simp only [Option.bind_some, valueFrom, digitValueIn_digitChar (Nat.mod_lt n (by decide : 0 < 10)),
        Option.some.injEq]
      omega

/-- So is a whole numeral, which must not be empty. -/
theorem value_decimal (n : Nat) : value 10 (decimal n) = some n := by
  have h := valueFrom_decimal n
  cases hd : decimal n with
  | nil => exact absurd hd (decimal_ne_nil n)
  | cons c rest => rw [hd] at h; simpa [value] using h

/-- The numeral of a word is read as the word. -/
theorem word_decimal (w : UInt64) : word (decimal w.toNat) = some w := by
  rw [word, value_decimal]
  have := w.toNat_lt
  simp [this]

example : decimal 0 = ['0'] := by simp [decimal, digitChar]
example : value 16 ['1', 'F'] = some 31 := by decide
example : word ['1', '2', 'x'] = none := by decide

end QuorumRescue.Numeral
