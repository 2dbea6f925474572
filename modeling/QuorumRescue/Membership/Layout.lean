/-
  The written form of a membership.

  Log ids and memberships are JSON objects with their fields in a fixed order; sets of voters are
  arrays and the map of nodes is an object named by ids, both in the order of the ids.  Reading is
  more liberal: fields may come in any order, or without their names as an array, others between
  them are passed over, and ids may be unsorted.  An entry that is not given is none.
-/
import QuorumRescue.Json.Decode
import QuorumRescue.Json.Value
import QuorumRescue.Membership

namespace QuorumRescue

open DecodeFault (required once)

/-! ## Writing -/

def LeaderId.toJson (leader : LeaderId) : Json :=
  .object [("term", .number leader.term.toNat), ("node_id", .number leader.node.toNat)]

def LogId.toJson (id : LogId) : Json :=
  .object [("leader_id", id.leader.toJson), ("index", .number id.index.toNat)]

/-- A set of ids as an array. -/
def IdSet.toJson (ids : IdSet) : Json := .array (ids.ids.map fun id => .number id.toNat)

/-- What a node's id leads to. -/
def Membership.nodeJson (address : String) : Json := .object [("addr", .text address)]

def Membership.toJson (membership : Membership) : Json :=
  .object
    [("configs", .array (membership.configs.map IdSet.toJson)),
     ("nodes", .object (membership.nodes.entries.map fun e =>
        (Numeral.toText e.1.toNat, nodeJson e.2)))]

def StoredMembership.toJson (stored : StoredMembership) : Json :=
  .object
    [("log_id", match stored.logId with
        | some id => id.toJson
        | none => .null),
     ("membership", stored.membership.toJson)]

/-! ## Reading -/

namespace LeaderId

/-- The fields read so far. -/
structure Fields where
  term : Option UInt64 := none
  node : Option UInt64 := none

/-- Reads one field. -/
def Fields.take (fields : Fields) (name : String) (value : Json.Draft) : Except DecodeFault Fields := do
  if name = "term" then
    once name fields.term
    return { fields with term := some (← value.toWord) }
  else
    once name fields.node
    return { fields with node := some (← value.toWord) }

def ofDraft (draft : Json.Draft) : Except DecodeFault LeaderId := do
  let fields ← draft.foldFields ["term", "node_id"] Fields.take {}
  return ⟨← required "term" fields.term, ← required "node_id" fields.node⟩

end LeaderId

namespace LogId

/-- The fields read so far. -/
structure Fields where
  leader : Option LeaderId := none
  index : Option UInt64 := none

/-- Reads one field. -/
def Fields.take (fields : Fields) (name : String) (value : Json.Draft) : Except DecodeFault Fields := do
  if name = "leader_id" then
    once name fields.leader
    return { fields with leader := some (← LeaderId.ofDraft value) }
  else
    once name fields.index
    return { fields with index := some (← value.toWord) }

def ofDraft (draft : Json.Draft) : Except DecodeFault LogId := do
  let fields ← draft.foldFields ["leader_id", "index"] Fields.take {}
  return ⟨← required "leader_id" fields.leader, ← required "index" fields.index⟩

end LogId

namespace Membership

/-- The address in what a node's id leads to, as far as it has been read. -/
def takeAddress (address : Option String) (name : String) (value : Json.Draft) :
    Except DecodeFault (Option String) := do
  once name address
  return some (← value.toText)

/-- The address of one node. -/
def addressOfDraft (draft : Json.Draft) : Except DecodeFault String := do
  required "addr" (← draft.foldFields ["addr"] takeAddress none)

/-- One set of voters. -/
def configOfDraft (draft : Json.Draft) : Except DecodeFault IdSet :=
  (draft.toList Json.Draft.toWord).map IdSet.ofList

/-- The fields read so far. -/
structure Fields where
  configs : Option (List IdSet) := none
  nodes : Option (IdMap String) := none

/-- Reads one field. -/
def Fields.take (fields : Fields) (name : String) (value : Json.Draft) : Except DecodeFault Fields := do
  if name = "configs" then
    once name fields.configs
    return { fields with configs := some (← value.toList configOfDraft) }
  else
    once name fields.nodes
    return { fields with nodes := some (.ofList (← value.toIdPairs addressOfDraft)) }

def ofDraft (draft : Json.Draft) : Except DecodeFault Membership := do
  let fields ← draft.foldFields ["configs", "nodes"] Fields.take {}
  return ⟨← required "configs" fields.configs, ← required "nodes" fields.nodes⟩

end Membership

namespace StoredMembership

/-- The fields read so far. -/
structure Fields where
  logId : Option (Option LogId) := none
  membership : Option Membership := none

/-- Reads one field. -/
def Fields.take (fields : Fields) (name : String) (value : Json.Draft) : Except DecodeFault Fields := do
  if name = "log_id" then
    once name fields.logId
    return { fields with logId := some (← value.toOption LogId.ofDraft) }
  else
    once name fields.membership
    return { fields with membership := some (← Membership.ofDraft value) }

def ofDraft (draft : Json.Draft) : Except DecodeFault StoredMembership := do
  let fields ← draft.foldFields ["log_id", "membership"] Fields.take {}
  return ⟨fields.logId.join, ← required "membership" fields.membership⟩

end StoredMembership

end QuorumRescue
