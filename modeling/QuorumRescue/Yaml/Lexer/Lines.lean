/-
  Reading plain scalars and blocks of lines.

  A plain scalar goes on over blanks and line ends as long as the next word is indented deeply
  enough; it ends at a colon before a blank, at a comment, at a line that separates documents, and,
  inside a flow collection, at the marks of that collection.

  A block of lines takes every line that is indented as deeply as its first one, or as its header
  says.  A literal block keeps its line ends.  A folded one turns a single line end between two lines
  into a space, unless one of the lines starts with a blank.
-/
import QuorumRescue.Yaml.Lexer.Quoted

namespace QuorumRescue.Yaml

/-! ## Plain scalars -/

/-- Whether a colon in a flow collection runs into a mark that it cannot stand before. -/
def runsIntoMark : List Char → Bool
  | ':' :: c :: _ => isFlowMark c || c == '?'
  | _ => false

/-- Whether a plain scalar ends before a mark. -/
def endsPlain (flow : Bool) : List Char → Bool
  | c :: rest => (c == ':' && endsWord rest) || (flow && isFlowMark c)
  | [] => true

/-- Whether a plain scalar ends before a word, as far as the line shows on which the word stands. -/
def endsBeforeWord (flow : Bool) (floor : Int) (pause : Pause) (p : Position) (text : List Char) : Bool :=
  (!pause.isNone && !flow && p.column < floor) || (p.column == 0 && isDocumentMarker text)
    || (!pause.isNone && text.head? == some '#')

/-- Reads a plain scalar; the pause behind it is passed, but not part of it.  The flag says whether
there was a line end in that pause. -/
def readPlain (flow : Bool) (floor : Int) :
    (text : List Char) → Pause → Position → List Char → Option (Stretch × Bool)
  | text, pause, p, [] => some (⟨text.reverse, p, []⟩, pause.hasBreak)
  | text, pause, p, '\r' :: '\n' :: rest =>
      readPlain flow floor text (pause.addBreak '\n') (p.down 2) rest
  | text, pause, p, c :: rest =>
      if isBreak c then readPlain flow floor text (pause.addBreak (breakText c)) (p.down 1) rest
      else if isBlank c then
        if pause.hasBreak ∧ p.column < floor ∧ c = '\t' then none
        else readPlain flow floor text (pause.addBlank c) (p.right 1) rest
      else if endsBeforeWord flow floor pause p (c :: rest) then
        some (⟨text.reverse, p, c :: rest⟩, pause.hasBreak)
      else if flow ∧ runsIntoMark (c :: rest) then none
      else if endsPlain flow (c :: rest) then some (⟨text.reverse, p, c :: rest⟩, pause.hasBreak)
      else readPlain flow floor (extendText text pause c) .none (p.right 1) rest

/-! ## Blocks of lines -/

/-- What becomes of the line ends after the last line. -/
inductive Chomp
  | strip
  | clip
  | keep
deriving DecidableEq, Repr

/-- The header of a block: the mark and the indentation it gives, if it does. -/
structure BlockHeader where
  chomp : Chomp
  increment : Nat

/-- The chomp mark, if there is one. -/
def chompOf (c : Char) : Option Chomp :=
  if c = '+' then some .keep else if c = '-' then some .strip else none

/-- The indentation a digit gives; zero is refused. -/
def incrementOf (c : Char) : Option Nat := if c = '0' then none else some (c.toNat - 48)

/-- Reads a chomp mark and an indentation, in either order, each at most once. -/
def readHeader (text : List Char) : Option (BlockHeader × Nat × List Char) :=
  match text with
  | [] => some (⟨.clip, 0⟩, 0, [])
  | c :: rest =>
      match chompOf c with
      | some chomp =>
          match rest with
          | [] => some (⟨chomp, 0⟩, 1, rest)
          | d :: more =>
              if isDigit d then (incrementOf d).map fun n => (⟨chomp, n⟩, 2, more)
              else some (⟨chomp, 0⟩, 1, rest)
      | none =>
          if isDigit c then
            match incrementOf c with
            | none => none
            | some n =>
                match rest with
                | [] => some (⟨.clip, n⟩, 1, rest)
                | d :: more =>
                    match chompOf d with
                    | some chomp => some (⟨chomp, n⟩, 2, more)
                    | none => some (⟨.clip, n⟩, 1, rest)
          else some (⟨.clip, 0⟩, 0, text)

/-- Passes the rest of a line: blanks, perhaps a comment, and the line end. -/
def skipLineEnd : (comment : Bool) → Position → List Char → Option (Position × List Char)
  | _, p, [] => some (p, [])
  | _, p, '\r' :: '\n' :: rest => some (p.down 2, rest)
  | comment, p, c :: rest =>
      if isBreak c then some (p.down 1, rest)
      else if comment then skipLineEnd true (p.right 1) rest
      else if isBlank c then skipLineEnd false (p.right 1) rest
      else if c = '#' then skipLineEnd true (p.right 1) rest
      else none

/-- A block while it is read: the text so far, latest first; the line end of the last line; the line
ends after it; the indentation, zero until it is known; the deepest line of blanks before; and
whether the last line started with a blank. -/
structure Block where
  text : List Char
  lastBreak : Option Char
  moreBreaks : List Char
  indent : Nat
  deepest : Nat
  blankLine : Bool

namespace Block

/-- The block before its first line. -/
def start (indent : Nat) : Block := ⟨[], none, [], indent, 0, false⟩

/-- The indentation, once a line with text is reached at a column. -/
def settled (b : Block) (parent : Int) (column : Nat) : Nat :=
  if b.indent = 0 then max (max (max b.deepest column) (parent + 1).toNat) 1 else b.indent

/-- A line with text begins: what came before is given its meaning. -/
def openLine (b : Block) (literal : Bool) (indent : Nat) (c : Char) : Block :=
  let folded := !literal && b.lastBreak == some '\n' && !b.blankLine && !isBlank c
  let join := if folded then (if b.moreBreaks.isEmpty then [' '] else []) else b.lastBreak.toList
  { b with
    text := c :: ((join ++ b.moreBreaks).reverse ++ b.text), lastBreak := none, moreBreaks := [],
    indent := indent, blankLine := isBlank c }

/-- The text of the whole block. -/
def finish (b : Block) (chomp : Chomp) : List Char :=
  b.text.reverse ++ match chomp with
    | .strip => []
    | .clip => b.lastBreak.toList
    | .keep => b.lastBreak.toList ++ b.moreBreaks

end Block

/-- Reads the lines of a block; `inLine` says whether the reader is inside one. -/
def readBlock (literal : Bool) (chomp : Chomp) (parent : Int) :
    (inLine : Bool) → Block → Position → List Char → Option Stretch
  | _, b, p, [] => some ⟨b.finish chomp, p, []⟩
  | true, b, p, '\r' :: '\n' :: rest =>
      readBlock literal chomp parent false { b with lastBreak := some '\n' } (p.down 2) rest
  | true, b, p, c :: rest =>
      if isBreak c then
        readBlock literal chomp parent false { b with lastBreak := some (breakText c) } (p.down 1) rest
      else readBlock literal chomp parent true { b with text := c :: b.text } (p.right 1) rest
  | false, b, p, '\r' :: '\n' :: rest =>
      readBlock literal chomp parent false
        { b with moreBreaks := b.moreBreaks ++ ['\n'], deepest := max b.deepest p.column } (p.down 2) rest
  | false, b, p, c :: rest =>
      let short := b.indent = 0 ∨ p.column < b.indent
      if isBreak c then
        readBlock literal chomp parent false
          { b with moreBreaks := b.moreBreaks ++ [breakText c], deepest := max b.deepest p.column }
          (p.down 1) rest
      else if short ∧ c = ' ' then readBlock literal chomp parent false b (p.right 1) rest
      else if short ∧ c = '\t' then none
      else
        let indent := b.settled parent p.column
        if p.column = indent then
          readBlock literal chomp parent true (b.openLine literal indent c) (p.right 1) rest
        else some ⟨b.finish chomp, p, c :: rest⟩

/-- Reads a block from behind its first mark; `parent` is the indentation around it. -/
def readBlockScalar (literal : Bool) (parent : Int) (p : Position) (text : List Char) : Option Stretch :=
  match readHeader text with
  | none => none
  | some (header, width, rest) =>
      match skipLineEnd false (p.right width) rest with
      | none => none
      | some (p, rest) =>
          let indent := if header.increment = 0 then 0 else (max parent 0).toNat + header.increment
          readBlock literal header.chomp parent false (Block.start indent) p rest

end QuorumRescue.Yaml
