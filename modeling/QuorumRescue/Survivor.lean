/-
  The survivor.

  After the others are lost, one of the recorded members is the machine that recovery runs on, and it
  has to be told which from addresses.

  1. **The evidence.** As a rule the configuration advertises exactly one address, and that is the
     evidence.  Where it says too little, with a single member, or too much, with several addresses, the
     machine is asked for its own.  That the machine has none is said in words of the search; any other
     failure to ask is passed on.

  2. **The hosts.** The evidence is a set of hosts, which are compared as texts.  It is gone through in
     ascending order, and a piece of it whose host cannot be told ends the search.

  3. **The search.** Members are tried in the order of the log, which on disk is that of their ids, and
     the first one at one of the hosts is the survivor.  A member whose address cannot be taken apart
     ends the search as well, since it might have been the one.  If there is nobody, the report has the
     hosts that were looked for.
-/
import QuorumRescue.Failure
import QuorumRescue.Member
import QuorumRescue.Ordered

namespace QuorumRescue

/-! ## Hosts -/

/-- The host that a piece of evidence names. -/
def Evidence.host (address : String) : Except Failure String :=
  match Address.host address with
  | .ok host => .ok host
  | .error fault => .error (.invalidAddress address fault)

/-- The host in a member's address. -/
def Member.host (member : Member) : Except Failure String :=
  match Address.split member.address with
  | .ok (host, _) => .ok host
  | .error fault => .error (.invalidAddress member.address fault)

namespace Survivor

/-! ## Evidence -/

/-- Whether the advertised addresses say too little or too much. -/
def asksMachine (members : List Member) (advertised : List String) : Bool :=
  members.length == 1 || 1 < advertised.length

/-- What the machine says about itself; that it has no address is put in words of the search. -/
def ownEvidence (own : Except Failure (List String)) : Except Failure (List String) :=
  match own with
  | .error (.notFound _) => .error (.notFound "external IP address to identify this node")
  | other => other

/-- The addresses to go by. -/
def evidence (members : List Member) (advertised : List String)
    (own : Except Failure (List String)) : Except Failure (List String) :=
  if asksMachine members advertised then ownEvidence own else .ok advertised

/-- The hosts that addresses name, in the order of the addresses. -/
def hostsOf : List String → Except Failure (List String)
  | [] => .ok []
  | address :: rest =>
      match Evidence.host address with
      | .error failure => .error failure
      | .ok host =>
          match hostsOf rest with
          | .error failure => .error failure
          | .ok hosts => .ok (host :: hosts)

/-- The set of hosts that a set of addresses names. -/
def hostSet (addresses : List String) : Except Failure (List String) :=
  (hostsOf (Ordered.ofList addresses)).map Ordered.ofList

/-! ## The search -/

/-- The first member at one of the hosts. -/
def firstAt (hosts : List String) : List Member → Except Failure (Option Member)
  | [] => .ok none
  | member :: rest =>
      match member.host with
      | .error failure => .error failure
      | .ok host => if hosts.contains host then .ok (some member) else firstAt hosts rest

/-- Finds the survivor among the members. -/
def resolve (members : List Member) (advertised : List String)
    (own : Except Failure (List String)) : Except Failure Member :=
  match evidence members advertised own with
  | .error failure => .error failure
  | .ok addresses =>
      match hostSet addresses with
      | .error failure => .error failure
      | .ok hosts =>
          match firstAt hosts members with
          | .error failure => .error failure
          | .ok (some member) => .ok member
          | .ok none => .error (.leaderNotFound members.length hosts)

end Survivor

end QuorumRescue
