/-
  Reading anchors, tags and directives.

  An anchor is a name; a tag is a handle and a suffix, or stands between angle brackets as it is; a
  directive at the start of a line gives the version of the format or the meaning of a handle.  In
  tags a byte may be written as a percent sign and two digits, and the bytes so written have to make
  up a character.
-/
import QuorumRescue.Yaml.Lexer.Lines
import QuorumRescue.Yaml.Token

namespace QuorumRescue.Yaml

/-- A token that was read, and where the reader stands after it. -/
structure Lexeme where
  token : Token
  position : Position
  rest : List Char

/-! ## Anchors -/

/-- Whether an anchor may end before what comes next. -/
def endsAnchor (text : List Char) : Bool :=
  endsWord text || match text with
    | c :: _ => c == '?' || c == ':' || c == ',' || c == ']' || c == '\x7d' || c == '%' || c == '@'
        || c == '\x60'
    | [] => true

/-- Reads the name of an anchor, or of an alias to one. -/
def readAnchor (make : List Char → Token) (p : Position) (text : List Char) : Option Lexeme :=
  let name := text.takeWhile isWordChar
  let rest := text.dropWhile isWordChar
  if name.isEmpty || !endsAnchor rest then none else some ⟨make name, p.right name.length, rest⟩

/-! ## Tags -/

/-- The characters of a tag; `verbatim` ones may have the marks of sequences among them. -/
def isTagChar (verbatim : Bool) (c : Char) : Bool :=
  isWordChar c || [';', '/', '?', ':', '@', '&', '=', '+', '$', '.', '%', '!', '~', '*', '\'', '(', ')'].contains c
    || (verbatim && (c == ',' || c == '[' || c == ']'))

/-- The number of bytes of a character that starts with a byte. -/
def leadWidth (b : Nat) : Option Nat :=
  if b < 0x80 then some 1
  else if 0xC0 ≤ b ∧ b < 0xE0 then some 2
  else if 0xE0 ≤ b ∧ b < 0xF0 then some 3
  else if 0xF0 ≤ b ∧ b < 0xF8 then some 4
  else none

/-- Reads the characters of a tag.  `wait` says how many more bytes the character that is being
spelled out in bytes needs, and `code` what they have given so far. -/
def readTagChars (verbatim : Bool) : (seen : List Char) → (wait code : Nat) → List Char →
    Option (List Char × Nat × List Char)
  | seen, 0, _, [] => some (seen.reverse, 0, [])
  | _, _ + 1, _, [] => none
  | seen, wait, code, '%' :: a :: b :: rest =>
      match Numeral.digitValueIn 16 a, Numeral.digitValueIn 16 b with
      | some hi, some lo =>
          let byte := hi * 16 + lo
          match wait with
          | 0 =>
              match leadWidth byte with
              | none => none
              | some 1 =>
                  (readTagChars verbatim (Char.ofNat byte :: seen) 0 0 rest).map
                    fun r => (r.1, r.2.1 + 3, r.2.2)
              | some width =>
                  (readTagChars verbatim seen (width - 1) (byte % Nat.pow 2 (7 - width)) rest).map
                    fun r => (r.1, r.2.1 + 3, r.2.2)
          | wait + 1 =>
              if byte < 0x80 ∨ 0xBF < byte then none
              else
                let code := code * 64 + byte % 64
                let seen := if wait = 0 then Char.ofNat code :: seen else seen
                (readTagChars verbatim seen wait code rest).map fun r => (r.1, r.2.1 + 3, r.2.2)
      | _, _ => none
  | seen, wait, _, c :: rest =>
      if 0 < wait ∨ c = '%' then none
      else if isTagChar verbatim c then
        (readTagChars verbatim (c :: seen) 0 0 rest).map fun r => (r.1, r.2.1 + 1, r.2.2)
      else some (seen.reverse, 0, c :: rest)

/-- A handle: an exclamation mark, perhaps a name, perhaps a second mark. -/
def readHandle (text : List Char) : Option (List Char × List Char) :=
  match text with
  | '!' :: rest =>
      let name := rest.takeWhile isWordChar
      match rest.dropWhile isWordChar with
      | '!' :: rest => some ('!' :: name ++ ['!'], rest)
      | rest => some ('!' :: name, rest)
  | _ => none

/-- Whether a handle has both of its marks. -/
def isFullHandle (handle : List Char) : Bool := 1 < handle.length && handle.getLast? == some '!'

/-- The handle and suffix of a tag that is not verbatim, its width and the rest. -/
def readShorthand (text : List Char) : Option (List Char × List Char × Nat × List Char) :=
  match readHandle text with
  | none => none
  | some (handle, rest) =>
      match readTagChars false [] 0 0 rest with
      | none => none
      | some (chars, width, rest) =>
          if isFullHandle handle then
            if width = 0 then none else some (handle, chars, handle.length + width, rest)
          else
            let suffix := handle.drop 1 ++ chars
            if suffix.isEmpty then some ([], ['!'], handle.length, rest)
            else some (['!'], suffix, handle.length + width, rest)

/-- The suffix of a tag between angle brackets, its width and the rest. -/
def readVerbatim (text : List Char) : Option (List Char × Nat × List Char) :=
  match readTagChars true [] 0 0 text with
  | some (suffix, width, '>' :: rest) => if width = 0 then none else some (suffix, width + 1, rest)
  | _ => none

/-- Reads a tag from its exclamation mark on. -/
def readTag (flow : Bool) (p : Position) (text : List Char) : Option Lexeme :=
  let found := match text with
    | '!' :: '<' :: rest => (readVerbatim rest).map fun r => ([], r.1, r.2.1 + 2, r.2.2)
    | _ => readShorthand text
  match found with
  | none => none
  | some (handle, suffix, width, rest) =>
      if endsWord rest || (flow && rest.head? == some ',') then
        some ⟨.tag handle suffix, p.right width, rest⟩
      else none

/-! ## Directives -/

/-- A number of at most nine digits. -/
def readVersionPart (text : List Char) : Option (Nat × List Char) :=
  let digits := text.takeWhile isDigit
  if digits.length ≤ 9 then
    (Numeral.value 10 digits).map fun n => (n, text.dropWhile isDigit)
  else none

/-- Two numbers with a point between them. -/
def readVersion (text : List Char) : Option (Token × List Char) :=
  match readVersionPart text with
  | some (major, '.' :: rest) =>
      (readVersionPart rest).map fun (minor, rest) => (.version major minor, rest)
  | _ => none

/-- A handle and what it stands for, with blanks between them. -/
def readTagMeaning (text : List Char) : Option (Token × List Char) :=
  match readHandle text with
  | none => none
  | some (handle, rest) =>
      if !(isFullHandle handle || handle == ['!']) then none
      else if !(rest.head?.any isBlank) then none
      else
        match readTagChars true [] 0 0 (rest.dropWhile isBlank) with
        | some (lead, width, rest) =>
            if width = 0 ∨ ¬ endsWord rest then none else some (.tagDirective handle lead, rest)
        | none => none

/-- Reads a directive from behind its percent sign to the end of its line. -/
def readDirective (p : Position) (text : List Char) : Option Lexeme :=
  let name := text.takeWhile isWordChar
  let rest := text.dropWhile isWordChar
  if name.isEmpty || !endsWord rest then none
  else
    let found :=
      if name = ['Y', 'A', 'M', 'L'] then readVersion (rest.dropWhile isBlank)
      else if name = ['T', 'A', 'G'] then readTagMeaning (rest.dropWhile isBlank)
      else none
    match found with
    | none => none
    | some (token, rest) =>
        (skipLineEnd false p rest).map fun (p, rest) => ⟨token, p, rest⟩

end QuorumRescue.Yaml
