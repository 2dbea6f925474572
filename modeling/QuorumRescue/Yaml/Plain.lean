/-
  What a plain scalar can be taken for.

  A scalar without quotes is read by what is expected of it: a text takes it as it stands, a number
  or an optional text looks closer.  The same rules decide in the other direction which texts have
  to be quoted when they are written: those that would be taken for nothing, a truth value or a
  number by a reader that does not know what to expect.
-/
import QuorumRescue.Numeral
import QuorumRescue.Text.Split

namespace QuorumRescue.Yaml

/-! ## Words -/

def isNullWord (text : List Char) : Bool :=
  text == ['~'] || text == ['n', 'u', 'l', 'l'] || text == ['N', 'u', 'l', 'l']
    || text == ['N', 'U', 'L', 'L']

def isBoolWord (text : List Char) : Bool :=
  text == ['t', 'r', 'u', 'e'] || text == ['T', 'r', 'u', 'e'] || text == ['T', 'R', 'U', 'E']
    || text == ['f', 'a', 'l', 's', 'e'] || text == ['F', 'a', 'l', 's', 'e']
    || text == ['F', 'A', 'L', 'S', 'E']

/-! ## Integers -/

/-- Without a sign. -/
def unsigned (text : List Char) : List Char :=
  match text with
  | '-' :: rest => rest
  | '+' :: rest => rest
  | _ => text

/-- A decimal numeral with a needless leading zero is no number. -/
def isZeroPadded (text : List Char) : Bool :=
  match unsigned text with
  | '0' :: c :: rest => (c :: rest).all Numeral.isDigit
  | _ => false

/-- The value of digits in the system that their lead names, if there is one. -/
def ledValue (text : List Char) : Option Nat :=
  match text with
  | '0' :: 'x' :: rest => Numeral.value 16 rest
  | '0' :: 'o' :: rest => Numeral.value 8 rest
  | '0' :: 'b' :: rest => Numeral.value 2 rest
  | _ => none

/-- The natural number that a scalar is the numeral of. -/
def natural (text : List Char) : Option Nat :=
  let digits := match text with
    | '+' :: rest => rest
    | _ => text
  match ledValue digits with
  | some n => some n
  | none => if isZeroPadded text then none else Numeral.value 10 digits

/-- Whether a scalar is the numeral of an integer of 128 bits, with or without a sign. -/
def isInteger (text : List Char) : Bool :=
  match text with
  | '-' :: digits =>
      match ledValue digits with
      | some n => n ≤ Nat.pow 2 127
      | none => !isZeroPadded text && (Numeral.value 10 digits).any (· ≤ Nat.pow 2 127)
  | _ =>
      match natural text with
      | some n => n < Nat.pow 2 128
      | none => false

/-! ## Fractions -/

/-- A decimal fraction: its digits, and how many of them stand after the point. -/
structure Fraction where
  digits : List Char
  after : Nat
  exponent : Int

/-- The exponent of a fraction: nothing, or a letter, perhaps a sign, and digits. -/
def exponentValue (text : List Char) : Option Int :=
  match text with
  | [] => some 0
  | e :: rest =>
      if e = 'e' ∨ e = 'E' then
        match rest with
        | '-' :: digits => (Numeral.value 10 digits).map fun n => -(n : Int)
        | '+' :: digits => (Numeral.value 10 digits).map fun n => (n : Int)
        | digits => (Numeral.value 10 digits).map fun n => (n : Int)
      else none

/-- The parts of a fraction that is not negative. -/
def readFraction (text : List Char) : Option Fraction :=
  let whole := text.takeWhile Numeral.isDigit
  let rest := text.dropWhile Numeral.isDigit
  let (after, rest) := match rest with
    | '.' :: rest => (rest.takeWhile Numeral.isDigit, rest.dropWhile Numeral.isDigit)
    | _ => ([], rest)
  if whole.isEmpty && after.isEmpty then none
  else (exponentValue rest).map fun e => ⟨whole ++ after, after.length, e⟩

/-- Whether a fraction is below the first number that a double cannot hold any more.  The numerals
of such numbers have at most 309 digits before the point, so the two ends need no arithmetic. -/
def Fraction.isFinite (f : Fraction) : Bool :=
  let digits := f.digits.dropWhile (· == '0')
  let count : Int := digits.length
  let size := count - f.after + f.exponent
  if digits.isEmpty ∨ size ≤ 308 then true
  else if 310 ≤ size then false
  else
    match Numeral.value 10 digits with
    | some n => n * Nat.pow 10 309 < (Nat.pow 2 1024 - Nat.pow 2 970) * Nat.pow 10 digits.length
    | none => false

def isInfinityWord (text : List Char) : Bool :=
  text == ['.', 'i', 'n', 'f'] || text == ['.', 'I', 'n', 'f'] || text == ['.', 'I', 'N', 'F']

def isNotANumberWord (text : List Char) : Bool :=
  text == ['.', 'n', 'a', 'n'] || text == ['.', 'N', 'a', 'N'] || text == ['.', 'N', 'A', 'N']

/-- Whether a scalar is the numeral of a floating-point number. -/
def isFloat (text : List Char) : Bool :=
  if isNotANumberWord text then true
  else
    match text with
    | '+' :: rest => isInfinityWord rest || (readFraction rest).any Fraction.isFinite
    | '-' :: rest => isInfinityWord rest || (readFraction rest).any Fraction.isFinite
    | _ => isInfinityWord text || (readFraction text).any Fraction.isFinite

/-! ## Quoting -/

/-- Whether a text would be taken for something else if it stood without quotes. -/
def isAmbiguous (text : List Char) : Bool :=
  text.isEmpty || isNullWord text || isBoolWord text || isInteger text || isFloat text
    || isZeroPadded text

example : isAmbiguous ['0', 'x', '1', 'F'] = true := by decide
example : isAmbiguous ['0', 'X', '1', 'F'] = false := by decide
example : isAmbiguous ['1', '.'] = true := by decide

end QuorumRescue.Yaml
