/-
  The consensus log, as recovery sees it.

  Replication and elections belong to the log itself.  Recovery needs two things from it: the
  members it believes in, and a way to force others onto it while it is stopped.  Three kinds of log
  give them.  A log in a directory answers after it has read its files; a log in memory answers at
  once; a stalled log never answers a read and cannot be forced.

  Reading is bounded by a deadline.  What is ready at once is always accepted; anything that has to
  be waited for is given up when the time is over.
-/
import QuorumRescue.LogDirectory

namespace QuorumRescue

/-- How long there is time: for the whole run, for reading but not until the log is to be forced, or
not any more. -/
inductive Deadline
  | live
  | short
  | expired
deriving DecidableEq, Repr

/-- A value that may have to be waited for. -/
inductive Pending (α : Type)
  | ready (value : α)
  | soon (value : α)
  | never

/-- The value, unless it does not come in time. -/
def Pending.within {α : Type} (deadline : Deadline) : Pending α → Option α
  | .ready value => some value
  | .soon value => if deadline = .expired then none else some value
  | .never => none

/-- A log.  A log in memory may be set up to fail its reads or its writes. -/
inductive ConsensusLog
  | onDisk (directory : LogDirectory)
  | inMemory (members : List Member) (readFailure forceFailure : Option Failure)
  | stalled

namespace ConsensusLog

/-- The members, when they come. -/
def read (log : ConsensusLog) (tree : Tree) : Pending (Except Failure (List Member)) :=
  match log with
  | .onDisk directory => .soon (directory.readMembers tree)
  | .inMemory _ (some failure) _ => .ready (.error failure)
  | .inMemory members none _ => .ready (.ok members)
  | .stalled => .never

/-- Overwrites the members, in memory or in the tree. -/
def force (log : ConsensusLog) (now : String) (members : List Member) (tree : Tree) :
    (ConsensusLog × Tree) × Except Failure Unit :=
  match log with
  | .onDisk directory =>
      match directory.force now members tree with
      | (tree, result) => ((log, tree), result)
  | .inMemory _ _ (some failure) => ((log, tree), .error failure)
  | .inMemory _ readFailure none => ((.inMemory members readFailure none, tree), .ok ())
  | .stalled => ((log, tree), .error (.internal .stalledLogForced))

end ConsensusLog

end QuorumRescue
