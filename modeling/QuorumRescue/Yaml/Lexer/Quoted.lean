/-
  Reading scalars between quotes.

  Between single quotes only the quote itself is special: it is doubled.  Between double quotes a
  backslash starts an escape, and a backslash at the end of a line joins the lines without a space.
  Both kinds may go over several lines, but not past a line that separates documents.

  The functions walk along the text once.  They carry what was read so far, latest first, and the
  pause since the last word, which is given its meaning when the next word comes.
-/
import QuorumRescue.Numeral
import QuorumRescue.Yaml.Position

namespace QuorumRescue.Yaml

/-- Puts a character behind the pause before it. -/
def extendText (text : List Char) (pause : Pause) (c : Char) : List Char :=
  c :: (pause.text.reverse ++ text)

/-- A finished scalar, with what a pause before the closing quote stands for. -/
def closeText (text : List Char) (pause : Pause) (p : Position) (rest : List Char) : Stretch :=
  ⟨(pause.text.reverse ++ text).reverse, p, rest⟩

/-! ## Single quotes -/

/-- Reads from behind the opening quote to behind the closing one. -/
def readSingle : (text : List Char) → Pause → Position → List Char → Option Stretch
  | _, _, _, [] => none
  | text, pause, p, '\r' :: '\n' :: rest => readSingle text (pause.addBreak '\n') (p.down 2) rest
  | text, pause, p, '\'' :: '\'' :: rest =>
      readSingle (extendText text pause '\'') .none (p.right 2) rest
  | text, pause, p, c :: rest =>
      if isBreak c then readSingle text (pause.addBreak (breakText c)) (p.down 1) rest
      else if isBlank c then readSingle text (pause.addBlank c) (p.right 1) rest
      else if c = '\'' then some (closeText text pause (p.right 1) rest)
      else if p.column = 0 ∧ isDocumentMarker (c :: rest) then none
      else readSingle (extendText text pause c) .none (p.right 1) rest

/-! ## Double quotes -/

/-- The character that a letter after a backslash stands for. -/
def escapedChar (c : Char) : Option Char :=
  if c = '0' then some (Char.ofNat 0)
  else if c = 'a' then some (Char.ofNat 7)
  else if c = 'b' then some (Char.ofNat 8)
  else if c = 't' ∨ c = '\t' then some '\t'
  else if c = 'n' then some '\n'
  else if c = 'v' then some (Char.ofNat 11)
  else if c = 'f' then some (Char.ofNat 12)
  else if c = 'r' then some '\r'
  else if c = 'e' then some (Char.ofNat 27)
  else if c = ' ' ∨ c = '"' ∨ c = '/' ∨ c = '\\' then some c
  else if c = 'N' then some (Char.ofNat 0x85)
  else if c = '_' then some (Char.ofNat 0xA0)
  else if c = 'L' then some (Char.ofNat 0x2028)
  else if c = 'P' then some (Char.ofNat 0x2029)
  else none

/-- How many digits follow the letter of a numeric escape. -/
def escapeWidth (c : Char) : Option Nat :=
  if c = 'x' then some 2 else if c = 'u' then some 4 else if c = 'U' then some 8 else none

/-- The character with a code point, unless it is half of a pair or too large. -/
def charOfCode (n : Nat) : Option Char :=
  if (0xD800 ≤ n ∧ n ≤ 0xDFFF) ∨ 0x10FFFF < n then none else some (Char.ofNat n)

/-- Reads from behind the opening quote to behind the closing one.  `code` is the numeric escape
being read: how many digits are missing, and the value of those before. -/
def readDouble : (text : List Char) → Pause → (code : Option (Nat × Nat)) → Position → List Char →
    Option Stretch
  | _, _, _, _, [] => none
  | text, pause, some (left, n), p, c :: rest =>
      match Numeral.digitValueIn 16 c with
      | none => none
      | some d =>
          if left ≤ 1 then
            match charOfCode (n * 16 + d) with
            | none => none
            | some code => readDouble (extendText text pause code) .none none (p.right 1) rest
          else readDouble text pause (some (left - 1, n * 16 + d)) (p.right 1) rest
  | text, pause, none, p, '\r' :: '\n' :: rest =>
      readDouble text (pause.addBreak '\n') none (p.down 2) rest
  | text, pause, none, p, '\\' :: '\r' :: '\n' :: rest =>
      readDouble (pause.text.reverse ++ text) (.breaks .none []) none ((p.right 1).down 2) rest
  | text, pause, none, p, '\\' :: c :: rest =>
      if isBreak c then
        readDouble (pause.text.reverse ++ text) (.breaks .none []) none ((p.right 1).down 1) rest
      else
        match escapeWidth c with
        | some width => readDouble text pause (some (width, 0)) (p.right 2) rest
        | none =>
            match escapedChar c with
            | some code => readDouble (extendText text pause code) .none none (p.right 2) rest
            | none => none
  | text, pause, none, p, c :: rest =>
      if isBreak c then readDouble text (pause.addBreak (breakText c)) none (p.down 1) rest
      else if isBlank c then readDouble text (pause.addBlank c) none (p.right 1) rest
      else if c = '"' then some (closeText text pause (p.right 1) rest)
      else if c = '\\' then none
      else if p.column = 0 ∧ isDocumentMarker (c :: rest) then none
      else readDouble (extendText text pause c) .none none (p.right 1) rest

end QuorumRescue.Yaml
