/-
  Tags of agents.

  An agent is known by its tag: the kind of thing it runs for, and a number.  The tag names the
  agent's directory, which holds its configuration.  Numbers may be written with leading zeros, so
  several texts can stand for one tag; a tag is written without them.
-/
import QuorumRescue.Numeral
import QuorumRescue.Text.Split
import QuorumRescue.Tree.Path

namespace QuorumRescue

/-- What an agent runs for. -/
inductive AgentKind
  | machine
  | controller
deriving DecidableEq, Repr

/-- The word for a kind. -/
def AgentKind.word : AgentKind → List Char
  | .machine => ['m', 'a', 'c', 'h', 'i', 'n', 'e']
  | .controller => ['c', 'o', 'n', 't', 'r', 'o', 'l', 'l', 'e', 'r']

/-- The kind that a word names. -/
def AgentKind.ofWord? (word : List Char) : Option AgentKind :=
  if word = AgentKind.machine.word then some .machine
  else if word = AgentKind.controller.word then some .controller
  else none

/-- The tag of an agent. -/
structure AgentTag where
  kind : AgentKind
  number : UInt64
deriving DecidableEq, Repr

namespace AgentTag

/-- The characters of a tag. -/
def toChars (tag : AgentTag) : List Char := tag.kind.word ++ '-' :: Numeral.decimal tag.number.toNat

/-- The text of a tag. -/
def toText (tag : AgentTag) : String := String.ofList tag.toChars

/-- The tag that characters stand for: a kind, a dash and a number of 64 bits. -/
def ofChars? (text : List Char) : Option AgentTag :=
  match Text.splitFirst '-' text with
  | none => none
  | some (word, digits) =>
      match Numeral.word digits, AgentKind.ofWord? word with
      | some number, some kind => some ⟨kind, number⟩
      | _, _ => none

/-- The tag that a text stands for. -/
def ofText? (text : String) : Option AgentTag := ofChars? text.toList

/-! ## Directories -/

/-- The directory of all agents. -/
def baseDir (dataDir : Path) : Path := dataDir.child "agents"

/-- The directory of one agent. -/
def dir (tag : AgentTag) (dataDir : Path) : Path := (baseDir dataDir).child tag.toText

/-- The name of an agent's configuration. -/
def configName : String := "agent.conf"

/-- The configuration of one agent. -/
def configPath (tag : AgentTag) (dataDir : Path) : Path := (tag.dir dataDir).child configName

end AgentTag

example : AgentTag.ofChars? "machine-007".toList = some ⟨.machine, 7⟩ := by decide
example : AgentTag.ofChars? "machine--7".toList = none := by decide

end QuorumRescue
