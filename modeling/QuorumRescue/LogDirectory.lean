/-
  The directory of a consensus log.

  Of everything a log keeps on disk, recovery touches two files: the membership record, and the lock
  that a running instance holds exclusively.

  1. **Reading** never creates anything.  A lock file that is missing means that no instance ever ran
     here, and then there is nothing to wait for.  A lock that is held ends the reading before the
     record is looked at.

  2. **Forcing** takes the lock first, looks at the record second and writes last, so a record that
     cannot be trusted is never overwritten, and a record that is missing is replaced by a fresh one.
     The lock's file is made if it is missing, and stays, whatever becomes of the force.  That a list is
     empty is seen before the lock, that it has no voter behind it.

  3. **Faults.** To a reader, a directory that is missing, a record that is missing and a lock that is
     held are outages of one class.  To a force, a record that is missing is none, and a lock that is
     held means that the log is in use.  A record that cannot be trusted is damaged to both, and says
     how.
-/
import QuorumRescue.LogRecord
import QuorumRescue.Tree

namespace QuorumRescue

/-- The directory of a log. -/
structure LogDirectory where
  path : Path
deriving DecidableEq, Repr

namespace LogDirectory

/-- The name of the membership record. -/
def recordName : String := "membership.json"

/-- The name of the instance lock. -/
def lockName : String := "raft.lock"

def recordPath (log : LogDirectory) : Path := log.path.child recordName
def lockPath (log : LogDirectory) : Path := log.path.child lockName

/-- The log cannot be opened. -/
def unavailable (log : LogDirectory) (outage : Outage) : Failure := .unavailable log.path.text outage

/-- The record, if it can be trusted. -/
def readRecord (log : LogDirectory) (tree : Tree) : Except Failure LogRecord :=
  match tree.read log.recordPath with
  | .error .missing => .error (log.unavailable .noRecord)
  | .error fault => .error (.io log.recordPath.text fault)
  | .ok bytes =>
      match LogRecord.trusted bytes with
      | .error damage => .error (.corruption log.recordPath.text damage)
      | .ok record => .ok record

/-- The members on record. -/
def readMembers (log : LogDirectory) (tree : Tree) : Except Failure (List Member) :=
  if tree.isDirectory log.path then
    match (tree.tryLock log.lockPath false).2 with
    | .heldElsewhere => .error (log.unavailable .lockHeld)
    | .failed fault => .error (.io log.lockPath.text fault)
    | .taken | .noFile => (log.readRecord tree).map fun record => record.stored.membership.members
  else .error (log.unavailable .noDirectory)

/-- The last entry on record; a missing record knows of none. -/
def lastEntry (log : LogDirectory) (tree : Tree) : Except Failure (Option LogId) :=
  match log.readRecord tree with
  | .ok record => .ok record.stored.logId
  | .error (.unavailable _ _) => .ok none
  | .error failure => .error failure

/-- Writes the record of a forced membership. -/
def write (log : LogDirectory) (now : String) (stored : StoredMembership) (tree : Tree) :
    Tree × Except Failure Unit :=
  match tree.replace log.path recordName (LogRecord.force now stored).toBytes with
  | (tree, .ok ()) => (tree, .ok ())
  | (tree, .error (.directory fault)) => (tree, .error (.io log.path.text fault))
  | (tree, .error (.file fault)) => (tree, .error (.io log.recordPath.text fault))

/-- Forces members onto a log whose lock has been taken; `first` is the first of them. -/
def forceLocked (log : LogDirectory) (now : String) (first : Member) (members : List Member)
    (tree : Tree) : Tree × Except Failure Unit :=
  match log.lastEntry tree with
  | .error failure => (tree, .error failure)
  | .ok last =>
      match Membership.ofMembers? members with
      | none => (tree, .error (.internal .noVoter))
      | some membership => log.write now ⟨some (.following last first.id), membership⟩ tree

/-- Overwrites the membership of a stopped log without asking anybody.  `now` is the time of day,
for the record. -/
def force (log : LogDirectory) (now : String) (members : List Member) (tree : Tree) :
    Tree × Except Failure Unit :=
  match members with
  | [] => (tree, .error (.internal .emptyMembership))
  | first :: _ =>
      if tree.isDirectory log.path then
        match tree.tryLock log.lockPath true with
        | (tree, .taken) => log.forceLocked now first members tree
        | (tree, .failed fault) => (tree, .error (.io log.lockPath.text fault))
        | (tree, .heldElsewhere) | (tree, .noFile) => (tree, .error (.inUse log.path.text))
      else (tree, .error (log.unavailable .noDirectory))

end LogDirectory

end QuorumRescue
