/-
  Taking a draft apart.

  A layout names its fields.  They may come as the members of an object, in any order, with others
  between them that are passed over; or as the items of an array, in the order of the layout and
  without any gap.  Either way the fields are handed over one by one, in the order of the text, and
  the first fault ends the reading.
-/
import QuorumRescue.Json.Draft

namespace QuorumRescue.Json

/-! ## Texts -/

/-- Four hexadecimal digits. -/
def hexQuad (a b c d : UInt8) : Option Nat :=
  match hexValue a, hexValue b, hexValue c, hexValue d with
  | some a, some b, some c, some d => some (((a * 16 + b) * 16 + c) * 16 + d)
  | _, _, _, _ => none

/-- The byte that a letter after a backslash stands for. -/
def shortEscape (b : UInt8) : UInt8 :=
  if b == 0x62 then 8
  else if b == 0x66 then 12
  else if b == 0x6E then 10
  else if b == 0x72 then 13
  else if b == 0x74 then 9
  else b

/-- The bytes that a raw text stands for.  Code points beyond the first plane are escaped as a pair;
half a pair stands for nothing. -/
def unescape : List UInt8 → Option (List UInt8)
  | [] => some []
  | 0x5C :: 0x75 :: a :: b :: c :: d :: 0x5C :: 0x75 :: a' :: b' :: c' :: d' :: rest =>
      match hexQuad a b c d, hexQuad a' b' c' d' with
      | some n, some m =>
          if n < 0xD800 ∨ 0xDFFF < n then
            (unescape (0x5C :: 0x75 :: a' :: b' :: c' :: d' :: rest)).map
              (String.utf8EncodeChar (Char.ofNat n) ++ ·)
          else if n ≤ 0xDBFF ∧ 0xDC00 ≤ m ∧ m ≤ 0xDFFF then
            (unescape rest).map
              (String.utf8EncodeChar (Char.ofNat (0x10000 + (n - 0xD800) * 0x400 + (m - 0xDC00))) ++ ·)
          else none
      | _, _ => none
  | 0x5C :: 0x75 :: a :: b :: c :: d :: rest =>
      match hexQuad a b c d with
      | some n =>
          if n < 0xD800 ∨ 0xDFFF < n then
            (unescape rest).map (String.utf8EncodeChar (Char.ofNat n) ++ ·)
          else none
      | none => none
  | 0x5C :: e :: rest => (unescape rest).map (shortEscape e :: ·)
  | b :: rest => (unescape rest).map (b :: ·)

/-- The text that stands between quotes, if it is one. -/
def textOf (raw : List UInt8) : Option String :=
  (unescape raw).bind fun bytes => String.fromUTF8? ⟨bytes.toArray⟩

namespace Draft

/-- A fault for everything that has no better name. -/
def malformed {α : Type} : Except DecodeFault α := .error .malformed

def toText : Draft → Except DecodeFault String
  | .text raw =>
      match textOf raw with
      | some decoded => .ok decoded
      | none => malformed
  | _ => malformed

/-! ## Other leaves -/

def toBool : Draft → Except DecodeFault Bool
  | .bool value => .ok value
  | _ => malformed

/-- A number of 64 bits. -/
def toWord : Draft → Except DecodeFault UInt64
  | .number (some n) => if n < UInt64.size then .ok (UInt64.ofNat n) else malformed
  | _ => malformed

/-- A number of 32 bits. -/
def toWord32 : Draft → Except DecodeFault UInt32
  | .number (some n) => if n < UInt32.size then .ok (UInt32.ofNat n) else malformed
  | _ => malformed

/-- A value that may be null. -/
def toOption {α : Type} (read : Draft → Except DecodeFault α) : Draft → Except DecodeFault (Option α)
  | .null => .ok none
  | draft => (read draft).map some

/-! ## Collections -/

/-- Reads the items in order. -/
def readAll {α : Type} (read : Draft → Except DecodeFault α) : List Draft → Except DecodeFault (List α)
  | [] => .ok []
  | item :: rest =>
      match read item with
      | .error fault => .error fault
      | .ok value =>
          match readAll read rest with
          | .error fault => .error fault
          | .ok values => .ok (value :: values)

/-- A list whose items are all of one kind. -/
def toList {α : Type} (read : Draft → Except DecodeFault α) : Draft → Except DecodeFault (List α)
  | .array items closed =>
      match readAll read items with
      | .error fault => .error fault
      | .ok values => if closed then .ok values else malformed
  | _ => malformed

/-- The id that an object's member is named by: a decimal numeral without leading zeros. -/
def idOfName (raw : List UInt8) : Option UInt64 :=
  match readInteger raw with
  | some (digits, []) => (digitsValue digits).bind fun n => if n < UInt64.size then some (UInt64.ofNat n) else none
  | _ => none

/-- Reads the members named by ids in order. -/
def readIdMembers {α : Type} (read : Draft → Except DecodeFault α) :
    List (List UInt8 × Draft) → Except DecodeFault (List (UInt64 × α))
  | [] => .ok []
  | (name, value) :: rest =>
      match idOfName name with
      | none => malformed
      | some id =>
          match read value with
          | .error fault => .error fault
          | .ok value =>
              match readIdMembers read rest with
              | .error fault => .error fault
              | .ok values => .ok ((id, value) :: values)

/-- An object whose members are named by ids. -/
def toIdPairs {α : Type} (read : Draft → Except DecodeFault α) :
    Draft → Except DecodeFault (List (UInt64 × α))
  | .object members closed =>
      match readIdMembers read members with
      | .error fault => .error fault
      | .ok values => if closed then .ok values else malformed
  | _ => malformed

/-! ## Layouts -/

/-- Hands over the members that the layout names, and passes over the others. -/
def foldMembers {σ : Type} (names : List String) (take : σ → String → Draft → Except DecodeFault σ) :
    σ → List (List UInt8 × Draft) → Except DecodeFault σ
  | state, [] => .ok state
  | state, (raw, value) :: rest =>
      match textOf raw with
      | none => malformed
      | some name =>
          if names.contains name then
            match take state name value with
            | .error fault => .error fault
            | .ok state => foldMembers names take state rest
          else if value.intact then foldMembers names take state rest
          else malformed

/-- Hands over items under the layout's names; there have to be as many of either. -/
def foldItems {σ : Type} (take : σ → String → Draft → Except DecodeFault σ) :
    σ → List String → List Draft → Except DecodeFault σ
  | state, [], [] => .ok state
  | state, name :: names, item :: items =>
      match take state name item with
      | .error fault => .error fault
      | .ok state => foldItems take state names items
  | _, _, _ => malformed

/-- Hands over the fields of a layout in the order of the text. -/
def foldFields {σ : Type} (names : List String) (take : σ → String → Draft → Except DecodeFault σ)
    (state : σ) : Draft → Except DecodeFault σ
  | .object members closed =>
      match foldMembers names take state members with
      | .error fault => .error fault
      | .ok state => if closed then .ok state else malformed
  | .array items closed =>
      match foldItems take state names items with
      | .error fault => .error fault
      | .ok state => if closed then .ok state else malformed
  | _ => malformed

end Draft

/-- Reads a whole text of one layout. -/
def decode {α : Type} (read : Draft → Except DecodeFault α) (bytes : List UInt8) :
    Except DecodeFault α :=
  match Draft.ofBytes bytes with
  | (draft, ends) =>
      match read draft with
      | .error fault => .error fault
      | .ok value => if ends then .ok value else .error .malformed

end QuorumRescue.Json
