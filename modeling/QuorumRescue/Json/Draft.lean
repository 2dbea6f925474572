/-
  JSON as it is found in a file.

  A file may be damaged anywhere, and what is reported is the first thing that does not fit, in the
  order of the text.  So the text is not accepted or refused as a whole.  It is read into a draft,
  which keeps everything up to the point where the text stops being JSON, and shows that point: a
  value that could not be read is `broken`, a collection that was never closed says so.  Taking the
  draft apart in order then meets the faults of content and of form in the order of the text.

  Two things are left open on purpose.  A text is kept as it stands between its quotes, since a text
  that nobody looks at need not make sense; and of a number only that it is, or is not, a natural
  number written in digits.
-/
import QuorumRescue.Decoding
import QuorumRescue.Numeral

namespace QuorumRescue.Json

/-- A JSON text, as far as it makes sense. -/
inductive Draft
  | null
  | bool (value : Bool)
  | number (natural : Option Nat)
  | text (raw : List UInt8)
  | array (items : List Draft) (closed : Bool)
  | object (members : List (List UInt8 × Draft)) (closed : Bool)
  | broken

/-! ## Characters of the format -/

def isBlank (b : UInt8) : Bool := b == 0x20 || b == 0x0A || b == 0x0D || b == 0x09
def isDigit (b : UInt8) : Bool := 0x30 ≤ b && b ≤ 0x39

/-- The value of a hexadecimal digit. -/
def hexValue (b : UInt8) : Option Nat := Numeral.digitValueIn 16 (Char.ofNat b.toNat)

def isHex (b : UInt8) : Bool := (hexValue b).isSome

/-- Whether a byte may follow a backslash on its own. -/
def isShortEscape (b : UInt8) : Bool :=
  b == 0x22 || b == 0x5C || b == 0x2F || b == 0x62 || b == 0x66 || b == 0x6E || b == 0x72 || b == 0x74

def dropBlanks (bytes : List UInt8) : List UInt8 := bytes.dropWhile isBlank

/-! ## Texts and numbers -/

/-- The bytes up to the closing quote, and the rest after it.  Escapes have to be well formed. -/
def readQuoted : List UInt8 → Option (List UInt8 × List UInt8)
  | [] => none
  | 0x22 :: rest => some ([], rest)
  | 0x5C :: 0x75 :: a :: b :: c :: d :: rest =>
      if isHex a && isHex b && isHex c && isHex d then
        (readQuoted rest).map fun p => (0x5C :: 0x75 :: a :: b :: c :: d :: p.1, p.2)
      else none
  | 0x5C :: e :: rest =>
      if isShortEscape e then (readQuoted rest).map fun p => (0x5C :: e :: p.1, p.2) else none
  | b :: rest =>
      if b == 0x5C || b < 0x20 then none else (readQuoted rest).map fun p => (b :: p.1, p.2)

/-- A run of digits that is not empty. -/
def readDigits (bytes : List UInt8) : Option (List UInt8 × List UInt8) :=
  match bytes.takeWhile isDigit with
  | [] => none
  | run => some (run, bytes.dropWhile isDigit)

/-- An integer without sign: a zero alone, or digits that do not start with one. -/
def readInteger (bytes : List UInt8) : Option (List UInt8 × List UInt8) :=
  match readDigits bytes with
  | some (0x30 :: _ :: _, _) => none
  | other => other

/-- The part after the integer: whether there is one, and the rest. -/
def readFraction (bytes : List UInt8) : Option (Bool × List UInt8) :=
  match bytes with
  | 0x2E :: rest => (readDigits rest).map fun p => (true, p.2)
  | _ => some (false, bytes)

/-- The exponent: whether there is one, and the rest. -/
def readExponent (bytes : List UInt8) : Option (Bool × List UInt8) :=
  match bytes with
  | e :: rest =>
      if e == 0x65 || e == 0x45 then
        let digits := match rest with
          | s :: more => if s == 0x2B || s == 0x2D then more else rest
          | [] => rest
        (readDigits digits).map fun p => (true, p.2)
      else some (false, bytes)
  | [] => some (false, bytes)

/-- The number that digits stand for. -/
def digitsValue (digits : List UInt8) : Option Nat :=
  Numeral.value 10 (digits.map fun b => Char.ofNat b.toNat)

/-- A number; its value is kept if it is written in digits alone. -/
def readNumber (bytes : List UInt8) : Option (Option Nat × List UInt8) :=
  let negative := bytes.head? == some 0x2D
  match readInteger (if negative then bytes.drop 1 else bytes) with
  | none => none
  | some (digits, rest) =>
      match readFraction rest with
      | none => none
      | some (fraction, rest) =>
          match readExponent rest with
          | none => none
          | some (exponent, rest) =>
              some (if negative || fraction || exponent then none else digitsValue digits, rest)

/-! ## Values -/

/-- A word of the format, when its first letter has been seen. -/
def readWord (word : List UInt8) (value : Draft) (bytes : List UInt8) : Draft × Option (List UInt8) :=
  if bytes.take word.length = word then (value, some (bytes.drop word.length)) else (.broken, none)

mutual

/-- A value and what follows it; nothing follows where the text stops making sense. -/
def readValue : (fuel : Nat) → List UInt8 → Draft × Option (List UInt8)
  | 0, _ => (.broken, none)
  | fuel + 1, bytes =>
      match dropBlanks bytes with
      | [] => (.broken, none)
      | 0x22 :: rest =>
          match readQuoted rest with
          | some (raw, rest) => (.text raw, some rest)
          | none => (.broken, none)
      | 0x5B :: rest =>
          match dropBlanks rest with
          | 0x5D :: rest => (.array [] true, some rest)
          | rest =>
              let (items, closed, rest) := readItems fuel rest
              (.array items closed, rest)
      | 0x7B :: rest =>
          match dropBlanks rest with
          | 0x7D :: rest => (.object [] true, some rest)
          | rest =>
              let (members, closed, rest) := readMembers fuel rest
              (.object members closed, rest)
      | b :: rest =>
          if b == 0x6E then readWord [0x6E, 0x75, 0x6C, 0x6C] .null (b :: rest)
          else if b == 0x74 then readWord [0x74, 0x72, 0x75, 0x65] (.bool true) (b :: rest)
          else if b == 0x66 then readWord [0x66, 0x61, 0x6C, 0x73, 0x65] (.bool false) (b :: rest)
          else
            match readNumber (b :: rest) with
            | some (natural, rest) => (.number natural, some rest)
            | none => (.broken, none)

/-- The items of an array up to its end. -/
def readItems : (fuel : Nat) → List UInt8 → List Draft × Bool × Option (List UInt8)
  | 0, _ => ([], false, none)
  | fuel + 1, bytes =>
      match readValue fuel bytes with
      | (item, none) => ([item], false, none)
      | (item, some rest) =>
          match dropBlanks rest with
          | 0x5D :: rest => ([item], true, some rest)
          | 0x2C :: rest =>
              let (items, closed, rest) := readItems fuel rest
              (item :: items, closed, rest)
          | _ => ([item], false, none)

/-- The members of an object up to its end. -/
def readMembers : (fuel : Nat) → List UInt8 → List (List UInt8 × Draft) × Bool × Option (List UInt8)
  | 0, _ => ([], false, none)
  | fuel + 1, bytes =>
      match dropBlanks bytes with
      | 0x22 :: rest =>
          match readQuoted rest with
          | none => ([], false, none)
          | some (name, rest) =>
              match dropBlanks rest with
              | 0x3A :: rest =>
                  match readValue fuel rest with
                  | (value, none) => ([(name, value)], false, none)
                  | (value, some rest) =>
                      match dropBlanks rest with
                      | 0x7D :: rest => ([(name, value)], true, some rest)
                      | 0x2C :: rest =>
                          let (members, closed, rest) := readMembers fuel rest
                          ((name, value) :: members, closed, rest)
                      | _ => ([(name, value)], false, none)
              | _ => ([(name, .broken)], false, none)
      | _ => ([], false, none)

end

/-- A whole text: its draft, and whether it ends where the value does. -/
def Draft.ofBytes (bytes : List UInt8) : Draft × Bool :=
  match readValue (2 * bytes.length + 2) bytes with
  | (draft, some rest) => (draft, (dropBlanks rest).isEmpty)
  | (draft, none) => (draft, false)

/-! ## Soundness of parts that nobody looks at -/

mutual

/-- Whether the draft is free of broken places. -/
def Draft.intact : Draft → Bool
  | .broken => false
  | .array items closed => allIntact items && closed
  | .object members closed => membersIntact members && closed
  | _ => true

def allIntact : List Draft → Bool
  | [] => true
  | item :: rest => item.intact && allIntact rest

def membersIntact : List (List UInt8 × Draft) → Bool
  | [] => true
  | (_, value) :: rest => value.intact && membersIntact rest

end

end QuorumRescue.Json
