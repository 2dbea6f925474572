/-
  JSON values and their two written forms.

  A membership record is written with indentation, for people; the checksum is taken over the same
  data written without a single blank.  Both forms keep the members of an object in the order in
  which they are given, so a value has exactly one text in each form.  Texts are written as UTF-8;
  only the quote, the backslash and the control characters are escaped.
-/
import QuorumRescue.Numeral

namespace QuorumRescue

/-- A JSON value; numbers are natural numbers, which is all a record holds. -/
inductive Json
  | null
  | bool (value : Bool)
  | number (value : Nat)
  | text (value : String)
  | array (items : List Json)
  | object (members : List (String × Json))

namespace Json

/-! ## Leaves -/

/-- The bytes of an ASCII text. -/
def ascii (text : List Char) : List UInt8 := text.map fun c => UInt8.ofNat c.toNat

/-- Two hexadecimal digits. -/
def hexPair (n : Nat) : List Char := [Numeral.digitChar (n / 16), Numeral.digitChar (n % 16)]

/-- How one character stands between quotes. -/
def escapeChar (c : Char) : List UInt8 :=
  if c = '"' then ascii ['\\', '"']
  else if c = '\\' then ascii ['\\', '\\']
  else if c = '\n' then ascii ['\\', 'n']
  else if c = '\r' then ascii ['\\', 'r']
  else if c = '\t' then ascii ['\\', 't']
  else if c.toNat = 8 then ascii ['\\', 'b']
  else if c.toNat = 12 then ascii ['\\', 'f']
  else if c.toNat < 32 then ascii (['\\', 'u', '0', '0'] ++ hexPair c.toNat)
  else String.utf8EncodeChar c

/-- A text between quotes. -/
def quote (text : String) : List UInt8 :=
  ascii ['"'] ++ text.toList.flatMap escapeChar ++ ascii ['"']

/-! ## The compact form -/

mutual

/-- A value without any blanks. -/
def compact : Json → List UInt8
  | .null => ascii ['n', 'u', 'l', 'l']
  | .bool true => ascii ['t', 'r', 'u', 'e']
  | .bool false => ascii ['f', 'a', 'l', 's', 'e']
  | .number n => ascii (Numeral.decimal n)
  | .text s => quote s
  | .array [] => ascii ['[', ']']
  | .array (item :: rest) => ascii ['['] ++ compact item ++ compactItems rest ++ ascii [']']
  | .object [] => ascii ['\x7b', '\x7d']
  | .object ((name, value) :: rest) =>
      ascii ['\x7b'] ++ quote name ++ ascii [':'] ++ compact value ++ compactMembers rest
        ++ ascii ['\x7d']

/-- The items after the first one. -/
def compactItems : List Json → List UInt8
  | [] => []
  | item :: rest => ascii [','] ++ compact item ++ compactItems rest

/-- The members after the first one. -/
def compactMembers : List (String × Json) → List UInt8
  | [] => []
  | (name, value) :: rest =>
      ascii [','] ++ quote name ++ ascii [':'] ++ compact value ++ compactMembers rest

end

/-! ## The indented form -/

/-- A new line at a depth of nesting. -/
def newLine (depth : Nat) : List UInt8 := ascii ('\n' :: List.replicate (2 * depth) ' ')

mutual

/-- A value with every item and member on a line of its own. -/
def indented (depth : Nat) : Json → List UInt8
  | .null => ascii ['n', 'u', 'l', 'l']
  | .bool true => ascii ['t', 'r', 'u', 'e']
  | .bool false => ascii ['f', 'a', 'l', 's', 'e']
  | .number n => ascii (Numeral.decimal n)
  | .text s => quote s
  | .array [] => ascii ['[', ']']
  | .array (item :: rest) =>
      ascii ['['] ++ newLine (depth + 1) ++ indented (depth + 1) item
        ++ indentedItems (depth + 1) rest ++ newLine depth ++ ascii [']']
  | .object [] => ascii ['\x7b', '\x7d']
  | .object ((name, value) :: rest) =>
      ascii ['\x7b'] ++ newLine (depth + 1) ++ quote name ++ ascii [':', ' ']
        ++ indented (depth + 1) value ++ indentedMembers (depth + 1) rest ++ newLine depth
        ++ ascii ['\x7d']

/-- The items after the first one. -/
def indentedItems (depth : Nat) : List Json → List UInt8
  | [] => []
  | item :: rest => ascii [','] ++ newLine depth ++ indented depth item ++ indentedItems depth rest

/-- The members after the first one. -/
def indentedMembers (depth : Nat) : List (String × Json) → List UInt8
  | [] => []
  | (name, value) :: rest =>
      ascii [','] ++ newLine depth ++ quote name ++ ascii [':', ' '] ++ indented depth value
        ++ indentedMembers depth rest

end

end Json

end QuorumRescue
