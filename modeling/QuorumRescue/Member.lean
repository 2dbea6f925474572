/-
  Members of the consensus cluster.

  A member has an id that it keeps for life, the address it is reached under, and a role.  Only
  voters count towards a quorum; a standby follows the log without a vote, a spare does not even
  follow it.
-/
import QuorumRescue.Numeral

namespace QuorumRescue

/-- Part a member takes in decisions. -/
inductive Role
  | voter
  | standby
  | spare
deriving DecidableEq, Repr, Inhabited

/-- The word for a role, in files and in reports. -/
def Role.word : Role → String
  | .voter => "voter"
  | .standby => "standby"
  | .spare => "spare"

/-- The role that a word names. -/
def Role.ofWord? (text : String) : Option Role :=
  if text = "voter" then some .voter
  else if text = "standby" then some .standby
  else if text = "spare" then some .spare
  else none

theorem Role.ofWord?_word (role : Role) : Role.ofWord? role.word = some role := by
  cases role <;> rfl

/-- One member of the cluster. -/
structure Member where
  id : UInt64
  address : String
  role : Role := .voter
deriving DecidableEq, Repr

/-- The line that shows a member to an operator. -/
def Member.toText (m : Member) : String :=
  Numeral.toText m.id.toNat ++ " (" ++ m.address ++ ", " ++ m.role.word ++ ")"

end QuorumRescue
