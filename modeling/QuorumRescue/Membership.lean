/-
  Membership as the consensus log keeps it.

  The log does not list members with roles.  It has sets of voters, one of them in quiet times and two
  while the membership is being changed, and a map from ids to the addresses of everybody it sends
  entries to.

  1. **Roles.** A member votes if any of the sets has it; all others follow without a vote.  So the log
     tells voters from the rest, but not a standby from a spare, and a spare comes back as a standby.

  2. **Lists.** A list of members becomes a membership if anybody in it votes.  Of several entries with
     one id the last one has the address, and one vote among them is enough.  The members of a
     membership are listed in the order of their ids.

  3. **Entries.** An entry of the log is known by its leader, who is known by a term and a node, and by
     its index.  A forced membership takes the place right behind the last known entry, under the same
     leader; without one, the first member leads in term 0.
-/
import QuorumRescue.IdMap
import QuorumRescue.Member

namespace QuorumRescue

/-! ## Log ids -/

/-- A leader: the term it was elected for, and its node. -/
structure LeaderId where
  term : UInt64
  node : UInt64
deriving DecidableEq, Repr

/-- An entry of the log. -/
structure LogId where
  leader : LeaderId
  index : UInt64
deriving DecidableEq, Repr

/-- The entry that a forced membership takes, after the last entry known.  A log without any entry
starts at index 1, led in term 0 by the first node forced into it. -/
def LogId.following (last : Option LogId) (first : UInt64) : LogId :=
  match last with
  | some id => ⟨id.leader, id.index + 1⟩
  | none => ⟨⟨0, first⟩, 1⟩

/-! ## Memberships -/

/-- Sets of voters, and the addresses of all nodes. -/
structure Membership where
  configs : List IdSet
  nodes : IdMap String
deriving DecidableEq

/-- A membership, with the entry that brought it. -/
structure StoredMembership where
  logId : Option LogId
  membership : Membership
deriving DecidableEq

namespace Membership

/-- Whether a node is in any set of voters. -/
def hasVote (membership : Membership) (id : UInt64) : Bool :=
  membership.configs.any fun config => config.ids.contains id

/-- The members in the order of their ids. -/
def members (membership : Membership) : List Member :=
  membership.nodes.entries.map fun e =>
    ⟨e.1, e.2, if membership.hasVote e.1 then .voter else .standby⟩

/-- The ids of the voters in a list. -/
def votersOf (members : List Member) : IdSet :=
  .ofList ((members.filter fun m => m.role = .voter).map (·.id))

/-- The ids and addresses in a list; of several addresses for one id the last counts. -/
def nodesOf (members : List Member) : IdMap String := .ofList (members.map fun m => (m.id, m.address))

/-- The membership that a list describes, unless nobody in it votes. -/
def ofMembers? (members : List Member) : Option Membership :=
  match (votersOf members).entries with
  | [] => none
  | _ => some ⟨[votersOf members], nodesOf members⟩

end Membership

example : (Membership.ofMembers? [⟨2, "b", .spare⟩, ⟨1, "a", .voter⟩]).map Membership.members
    = some [⟨1, "a", .voter⟩, ⟨2, "b", .standby⟩] := by decide

end QuorumRescue
