/-
  Recovery.

  A cluster that has lost its quorum cannot change its own membership any more.  Recovery does it from
  outside, on the one node that is left: it reads the members from the log, finds out which of them is
  this node, and collapses the cluster to that one.

  1. **Planning.** The steps are strictly in order, and everything before the log is forced only reads,
     but for the data directory, which is made if it is missing.  `plan` takes these steps and says what
     would be done.  The log alone decides; the registry is read for the report, where it may be
     missing.

  2. **Choosing.** A log that already has a single member needs no repair, so running a recovery twice
     does nothing the second time.  Several members are collapsed to one only if the configuration
     advertises one address at most; with several of them nothing shows that the others are gone.

  3. **Doing it.** `recover` plans and carries out what was planned.  The survivor is written as a voter
     whatever it was before.  Its own record is rewritten separately, and only behind a collapse that
     was done.

  4. **Failures** of a step are annotated with the step.  Those of the steps before the force leave all
     files as they were.
-/
import QuorumRescue.Site

namespace QuorumRescue

/-- What a recovery decides on. -/
inductive Action
  | alreadySingle (member : Member)
  | collapse (survivor : Member)
deriving DecidableEq, Repr

/-- The member that is left.  A survivor always votes; without a vote it could not lead itself. -/
def Action.remaining : Action → Member
  | .alreadySingle member => member
  | .collapse survivor => { survivor with role := .voter }

/-- What a recovery found and decided, and whether it has been done. -/
structure Outcome where
  previous : List Member
  registry : Option (List Member)
  action : Action
  applied : Bool
deriving DecidableEq, Repr

namespace Outcome

/-- The members after the recovery, whether or not it has been done yet. -/
def members (outcome : Outcome) : List Member := [outcome.action.remaining]

/-- Whether the registry could be read and says something else than the log. -/
def diverged (outcome : Outcome) : Bool :=
  match outcome.registry with
  | some registered => registered != outcome.previous
  | none => false

end Outcome

/-! ## Doing it -/

namespace Site

/-- Does what was planned. -/
def carryOut (now : String) (outcome : Outcome) (deadline : Deadline) (site : Site) :
    Site × Except Failure Outcome :=
  match outcome.action with
  | .alreadySingle _ => (site, .ok outcome)
  | .collapse _ =>
      match site.setMembers now outcome.members deadline with
      | (site, .error failure) => (site, .error failure)
      | (site, .ok ()) => (site, .ok { outcome with applied := true })

/-- Makes the member that is left the node's own record, after a collapse that was done. -/
def rewriteInfo (outcome : Outcome) (site : Site) : Site × Except Failure Unit :=
  if outcome.applied then
    match site.setInfo outcome.action.remaining with
    | (site, .ok ()) => (site, .ok ())
    | (site, .error failure) =>
        (site, .error
          ((Failure.inconsistentState outcome.action.remaining.id failure).during .rewriteInfo))
  else (site, .ok ())

end Site

namespace Setup

/-! ## Planning -/

/-- Decides on an action, given the members in the log.  With several advertised addresses, or as
many as there are members, nothing shows that the others are gone. -/
def choose (setup : Setup) (advertised : List String) : List Member → Except Failure Action
  | [] => .error ((Failure.notFound "members in consensus log").during .readMembership)
  | [only] => .ok (.alreadySingle only)
  | members =>
      if 1 < advertised.length ∨ advertised.length = members.length then
        .error ((Failure.ambiguousTopology members.length advertised.length).during .resolveSurvivor)
      else
        match Survivor.resolve members advertised setup.ownAddresses with
        | .error failure => .error (failure.during .resolveSurvivor)
        | .ok survivor => .ok (.collapse survivor)

/-- Reads and decides. -/
def decide (setup : Setup) (advertised : List String) (deadline : Deadline) (site : Site) :
    Except Failure Outcome :=
  match setup.members deadline site with
  | .error failure => .error (failure.during .readMembership)
  | .ok previous =>
      match setup.choose advertised previous with
      | .error failure => .error failure
      | .ok action => .ok ⟨previous, site.registered.toOption, action, false⟩

/-- Says what a recovery would do.  Only the data directory is made, if it is missing. -/
def plan (setup : Setup) (advertised : List String) (deadline : Deadline) (site : Site) :
    Site × Except Failure Outcome :=
  match setup.ensureDir site with
  | (site, .error failure) => (site, .error (failure.during .ensureDataDir))
  | (site, .ok ()) => (site, setup.decide advertised deadline site)

/-! ## The whole recovery -/

/-- Collapses the cluster to its survivor. -/
def recover (setup : Setup) (now : String) (advertised : List String) (deadline : Deadline)
    (site : Site) : Site × Except Failure Outcome :=
  match setup.plan advertised deadline site with
  | (site, .error failure) => (site, .error failure)
  | (site, .ok outcome) => site.carryOut now outcome deadline

end Setup

end QuorumRescue
