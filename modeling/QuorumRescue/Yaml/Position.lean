/-
  Where a reader of YAML stands.

  Line and column decide what a word means, and the distance from its start whether it can still
  become a key.  All three are counted in characters; a line feed after a carriage return ends the
  same line.
-/
import QuorumRescue.Yaml.Char

namespace QuorumRescue.Yaml

/-- A place in a text. -/
structure Position where
  index : Nat
  line : Nat
  column : Nat
deriving DecidableEq, Repr

namespace Position

/-- After `count` characters that end no line. -/
def right (p : Position) (count : Nat) : Position :=
  { p with index := p.index + count, column := p.column + count }

/-- After a line end that is `count` characters long. -/
def down (p : Position) (count : Nat) : Position := ⟨p.index + count, p.line + 1, 0⟩

end Position

/-- A piece of text that was read, and where the reader stands after it. -/
structure Stretch where
  text : List Char
  position : Position
  rest : List Char

/-! ## Between two words -/

/-- What was passed between two tokens: whether a key may start here, and where the reader stands. -/
structure Gap where
  fresh : Bool
  position : Position
  rest : List Char

/-- Passes blanks, comments and line ends.  A line end makes way for a key, outside of flow
collections; where a key may start, tabs are no blanks.  A byte order mark may start a line. -/
def skipGap (flow : Bool) : (fresh comment : Bool) → Position → List Char → Gap
  | fresh, _, p, [] => ⟨fresh, p, []⟩
  | fresh, _, p, '\r' :: '\n' :: rest => skipGap flow (fresh || !flow) false (p.down 2) rest
  | fresh, comment, p, c :: rest =>
      if isBreak c then skipGap flow (fresh || !flow) false (p.down 1) rest
      else if comment then skipGap flow fresh true (p.right 1) rest
      else if c = byteOrderMark ∧ p.column = 0 then skipGap flow fresh false (p.right 1) rest
      else if c = ' ' ∨ (c = '\t' ∧ (flow ∨ ¬ fresh)) then skipGap flow fresh false (p.right 1) rest
      else if c = '#' then skipGap flow fresh true (p.right 1) rest
      else ⟨fresh, p, c :: rest⟩

/-! ## Inside a scalar -/

/-- What has been passed since the last word of a scalar.  Blanks between words stay; a line end
swallows the blanks around it and becomes a space, or vanishes before the line ends after it. -/
inductive Pause
  | none
  | blanks (seen : List Char)
  | breaks (first : Option Char) (more : List Char)

namespace Pause

def addBlank (pause : Pause) (c : Char) : Pause :=
  match pause with
  | none => blanks [c]
  | blanks seen => blanks (seen ++ [c])
  | breaks first more => breaks first more

def addBreak (pause : Pause) (c : Char) : Pause :=
  match pause with
  | breaks first more => breaks first (more ++ [c])
  | _ => breaks (some c) []

/-- What the pause stands for when another word follows. -/
def text : Pause → List Char
  | none => []
  | blanks seen => seen
  | breaks (some first) more =>
      if first = '\n' then (if more.isEmpty then [' '] else more) else first :: more
  | breaks Option.none more => more

/-- Whether nothing has been passed. -/
def isNone : Pause → Bool
  | none => true
  | _ => false

/-- Whether a line end has been passed. -/
def hasBreak : Pause → Bool
  | breaks .. => true
  | _ => false

end Pause

end QuorumRescue.Yaml
