/-
  The site of a recovery.

  A recovery works on one node: its file tree, its consensus log and its registry.  They make up the
  site, which is all that a recovery changes.  What it is told and never changes is its setup: the data
  directory, how long a step may wait, and what the machine says about its own addresses.

  1. **Operations** are functions from a site to a site and an answer.  Every operation answers with the
     site as it leaves it, whether it succeeds or fails, so that what a failure has changed can be told.

  2. **Kinds.** Log and registry may be on disk, where they are files of the tree, or in memory.
     `Site.inDirectory` is the site that the program works on; the others serve to say what does not
     depend on the kind.

  3. **Writing members** is two writes, to the log and to the registry behind it.  There is no way back
     from the first, so the deadline is looked at before it and not any more afterwards, and a failure
     of the second one is raised to an inconsistent state.  The member that it names is the first of the
     list, and nobody asks the log.

  4. **Reading** may have to wait for a log, for as long as both the deadline and the limit of a step
     allow.
-/
import QuorumRescue.ConsensusLog
import QuorumRescue.Registry
import QuorumRescue.Survivor

namespace QuorumRescue

/-- What a recovery works on. -/
structure Site where
  tree : Tree
  log : ConsensusLog
  registry : Registry

/-- The site whose log and registry are in a directory of a tree. -/
def Site.inDirectory (dir : Path) (tree : Tree) : Site := ⟨tree, .onDisk ⟨dir⟩, .onDisk ⟨dir⟩⟩

/-! ## What is at a site -/

namespace Site

/-- The members according to the registry. -/
def registered (site : Site) : Except Failure (List Member) := site.registry.members site.tree

/-- The node's own record in the registry. -/
def info (site : Site) : Except Failure Member := site.registry.info site.tree

/-- Forces members onto the log. -/
def force (now : String) (members : List Member) (site : Site) : Site × Except Failure Unit :=
  match site.log.force now members site.tree with
  | ((log, tree), result) => ({ site with log := log, tree := tree }, result)

/-- Replaces the members in the registry. -/
def register (members : List Member) (site : Site) : Site × Except Failure Unit :=
  match site.registry.setMembers members site.tree with
  | ((registry, tree), result) => ({ site with registry := registry, tree := tree }, result)

/-- Replaces the node's own record in the registry. -/
def setInfo (member : Member) (site : Site) : Site × Except Failure Unit :=
  match site.registry.setInfo member site.tree with
  | ((registry, tree), result) => ({ site with registry := registry, tree := tree }, result)

/-- The id that an inconsistent state is reported with. -/
def leadingId : List Member → UInt64
  | [] => 0
  | first :: _ => first.id

/-- Writes members to the log and then to the registry.  Once the log is forced there is no way back,
so from there on the deadline no longer counts, and a failure leaves the two at odds. -/
def setMembers (now : String) (members : List Member) (deadline : Deadline) (site : Site) :
    Site × Except Failure Unit :=
  match deadline with
  | .short | .expired =>
      (site, .error ((Failure.deadlineExceeded .collapseLog).during .collapseLog))
  | .live =>
      match site.force now members with
      | (site, .error failure) => (site, .error (failure.during .collapseLog))
      | (site, .ok ()) =>
          match site.register members with
          | (site, .error failure) =>
              (site, .error
                ((Failure.inconsistentState (leadingId members) failure).during .collapseRegistry))
          | (site, .ok ()) => (site, .ok ())

end Site

/-! ## What is told -/

/-- What a recovery is told.  `stepTimeout` is in milliseconds. -/
structure Setup where
  dir : Path
  stepTimeout : Nat
  ownAddresses : Except Failure (List String)

namespace Setup

/-! ## Names -/

/-- The name of the data directory inside an agent's. -/
def dirName : String := "raft"

/-- The port that consensus traffic uses. -/
def port : Nat := 17666

/-- The host that a node is bound to before it has joined a cluster. -/
def bootstrapHost : String := "127.0.0.1"

/-- The data directory inside an agent's. -/
def dirIn (base : Path) : Path := base.child dirName

/-- The address of a host, for consensus traffic. -/
def addressFor (host : String) : String := host ++ ":" ++ Numeral.toText port

/-- The address that a node is bound to before it has joined a cluster. -/
def loopbackAddress : String := addressFor bootstrapHost

/-- The time left for reading: a step has a limit of its own. -/
def readLimit (setup : Setup) (deadline : Deadline) : Deadline :=
  if setup.stepTimeout = 0 then .expired else deadline

/-! ## The data directory -/

/-- Makes the data directory, if it is missing. -/
def ensureDir (setup : Setup) (site : Site) : Site × Except Failure Unit :=
  match site.tree.makeDirectories setup.dir with
  | (tree, .ok ()) => ({ site with tree := tree }, .ok ())
  | (tree, .error fault) => ({ site with tree := tree }, .error (.io setup.dir.text fault))

/-- Whether anything is in the data directory. -/
def isOccupied (setup : Setup) (site : Site) : Except Failure Bool :=
  match site.tree.isOccupied setup.dir with
  | .ok occupied => .ok occupied
  | .error fault => .error (.io setup.dir.text fault)

/-- Whether a node has ever run here. -/
def isExisting (setup : Setup) (site : Site) : Site × Except Failure Bool :=
  match setup.ensureDir site with
  | (site, .error failure) => (site, .error failure)
  | (site, .ok ()) => (site, setup.isOccupied site)

/-! ## Reading -/

/-- The members according to the log. -/
def members (setup : Setup) (deadline : Deadline) (site : Site) : Except Failure (List Member) :=
  match (site.log.read site.tree).within (setup.readLimit deadline) with
  | some answer => answer
  | none => .error (.deadlineExceeded .readMembership)

/-- Whether a list has one member, bound to the host of nodes that have not joined a cluster. -/
def isBootstrapList : List Member → Bool
  | [only] =>
      match Evidence.host only.address with
      | .ok host => host == bootstrapHost
      | .error _ => false
  | _ => false

/-- Whether the cluster was started on this node and has not been changed since. -/
def isBootstrapped (setup : Setup) (deadline : Deadline) (site : Site) : Site × Except Failure Bool :=
  match setup.isExisting site with
  | (site, .error failure) => (site, .error failure)
  | (site, .ok false) => (site, .ok false)
  | (site, .ok true) => (site, (setup.members deadline site).map isBootstrapList)

end Setup

end QuorumRescue
