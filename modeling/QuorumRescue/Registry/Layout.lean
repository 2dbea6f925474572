/-
  The written form of the node registry.

  The registry is kept as YAML, for people to read and to mend.  Each member is a record of three
  fields, one line each; the list has a dash before every record, and a node's own record stands
  alone.  Only an address can need quotes or more than one line.  A mended file may leave the role
  out, which makes a voter, and may have the fields in any order and others between them.
-/
import QuorumRescue.Member
import QuorumRescue.Yaml.Decode
import QuorumRescue.Yaml.Scalar

namespace QuorumRescue.Registry

open DecodeFault (required once)

/-! ## Writing -/

/-- Ends the line of a scalar; a block of lines has ended its own. -/
def endLine (scalar : List Char) : List Char :=
  if scalar.getLast?.any Yaml.isBreak then scalar else scalar ++ ['\n']

/-- A member's three fields.  `first` stands before the first line and `margin` blanks before the
others. -/
def fieldLines (first : List Char) (margin : Nat) (member : Member) : List Char :=
  let blanks := List.replicate margin ' '
  first ++ ['i', 'd', ':', ' '] ++ Numeral.decimal member.id.toNat ++ ['\n']
    ++ blanks ++ ['a', 'd', 'd', 'r', 'e', 's', 's', ':', ' ']
    ++ endLine (Yaml.scalar (margin + 2) member.address.toList)
    ++ blanks ++ ['r', 'o', 'l', 'e', ':', ' '] ++ member.role.word.toList ++ ['\n']

/-- A node's own record. -/
def infoText (member : Member) : List Char := fieldLines [] 0 member

/-- The list of members. -/
def clusterText : List Member → List Char
  | [] => ['[', ']', '\n']
  | members => members.flatMap (fieldLines ['-', ' '] 2)

/-! ## Reading -/

/-- The fields read so far. -/
structure Fields where
  id : Option UInt64 := none
  address : Option String := none
  role : Option Role := none

/-- Reads one field. -/
def Fields.take (fields : Fields) (name : String) (value : Yaml.Node) : Except DecodeFault Fields := do
  if name = "id" then
    once name fields.id
    return { fields with id := some (← value.toWord) }
  else if name = "address" then
    once name fields.address
    return { fields with address := some (← value.toText) }
  else
    once name fields.role
    return { fields with role := some (← value.toChoice Role.ofWord?) }

/-- The fields of a member in order. -/
def fieldNames : List String := ["id", "address", "role"]

def memberOfNode (node : Yaml.Node) : Except DecodeFault Member := do
  let fields ← node.foldFields fieldNames Fields.take {}
  return ⟨← required "id" fields.id, ← required "address" fields.address, fields.role.getD .voter⟩

/-- Reads a node's own record. -/
def readInfo (bytes : ByteArray) : Except DecodeFault Member := Yaml.decode memberOfNode bytes

/-- Reads the list of members. -/
def readCluster (bytes : ByteArray) : Except DecodeFault (List Member) :=
  Yaml.decode (Yaml.Node.toList memberOfNode) bytes

end QuorumRescue.Registry
