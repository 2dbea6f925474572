/-
  What can go wrong in a recovery.

  Every failure belongs to one class of things that an operator has to react to, and the class decides
  the code in logs and the exit status of the process.

  1. **Classes.** Only an absence is not fatal: the caller may have another way.  After the consensus
     log has been forced there is no way back, so a failure from then on is raised to an inconsistent
     state, and that alone exits with 2.

  2. **Steps.** A failure of a recovery is annotated with the step that it happened in
     (`Failure.during`).  The annotation changes neither the code nor the exit status; both are those of
     the root.

  3. **Words.** Failures are causes.  Their wording is in `Failure.message` and nowhere else; the
     constructors called `reported` carry a cause that some outside component put into words itself.
-/
import QuorumRescue.Address
import QuorumRescue.Decoding
import QuorumRescue.Numeral
import QuorumRescue.Text.Quoted
import QuorumRescue.Tree.Fault

namespace QuorumRescue

/-! ## Steps of a run -/

/-- The steps of a recovery, in the order in which they are taken. -/
inductive Step
  | ensureDataDir
  | readMembership
  | resolveSurvivor
  | collapseLog
  | collapseRegistry
  | rewriteInfo
deriving DecidableEq, Repr

/-- The label an operator sees. -/
def Step.label : Step → String
  | .ensureDataDir => "ensure data dir"
  | .readMembership => "read cluster membership"
  | .resolveSurvivor => "resolve surviving node"
  | .collapseLog => "force consensus log membership"
  | .collapseRegistry => "write node registry"
  | .rewriteInfo => "rewrite node info"

/-! ## Causes -/

/-- Why stored data cannot be trusted. -/
inductive Damage
  | missingHeader
  | unknownFormat (version : UInt32)
  | checksumMismatch
  | undecodable (fault : DecodeFault)
  | reported (text : String)
deriving DecidableEq, Repr

def Damage.message : Damage → String
  | .missingHeader => "missing format header"
  | .unknownFormat version => "unknown record format " ++ Numeral.toText version.toNat
  | .checksumMismatch => "checksum mismatch"
  | .undecodable fault => fault.message
  | .reported text => text

/-- Why the consensus log cannot be opened. -/
inductive Outage
  | noDirectory
  | noRecord
  | lockHeld
  | reported (text : String)
deriving DecidableEq, Repr

def Outage.message : Outage → String
  | .noDirectory => "data directory does not exist"
  | .noRecord => "no membership record in log"
  | .lockHeld => "lock held by a running instance"
  | .reported text => text

/-- A field of the agent configuration that breaks its rule. -/
inductive FieldFault
  | emptyApiAddress (index : Nat)
  | badController
  | badModel
  | badTag
deriving DecidableEq, Repr

/-- One line for the operator. -/
def FieldFault.line : FieldFault → String
  | .emptyApiAddress index =>
      "api_addresses[" ++ Numeral.toText index ++ "]: length is lower than 1\n"
  | .badController => "controller: does not match pattern /^controller-[0-9a-f-]+$/\n"
  | .badModel => "model: does not match pattern /^model-[0-9a-f-]+$/\n"
  | .badTag => "tag: does not match pattern /^(machine|controller)-[0-9]+$/\n"

/-- Why a configuration that could be read is not accepted. -/
inductive ConfigFault
  | notATag (text : String)
  | fields (faults : List FieldFault)
  | reported (text : String)
deriving DecidableEq, Repr

def ConfigFault.message : ConfigFault → String
  | .notATag text => Text.quoted text ++ " is not a valid agent tag"
  | .fields faults => String.join (faults.map FieldFault.line)
  | .reported text => text

/-- A request that makes no sense, whoever made it. -/
inductive Misuse
  | emptyMembership
  | noVoter
  | stalledLogForced
  | reported (text : String)
deriving DecidableEq, Repr

def Misuse.message : Misuse → String
  | .emptyMembership => "refusing to force an empty membership"
  | .noVoter => "membership needs at least one voter"
  | .stalledLogForced => "hung log was forced"
  | .reported text => text

/-! ## Failures -/

/-- A failure of a recovery or of one of its parts. -/
inductive Failure
  | notFound (what : String)
  | corruption (resource : String) (damage : Damage)
  | unavailable (path : String) (outage : Outage)
  | inUse (path : String)
  | leaderNotFound (members : Nat) (evidence : List String)
  | ambiguousTopology (members advertised : Nat)
  | invalidAddress (address : String) (fault : AddressFault)
  | unsupportedFormat (version : String)
  | invalidConfig (fault : ConfigFault)
  | deadlineExceeded (step : Step)
  | io (path : String) (fault : IoFault)
  | inconsistentState (survivor : UInt64) (source : Failure)
  | stepFailed (step : Step) (source : Failure)
  | internal (misuse : Misuse)
deriving DecidableEq, Repr

namespace Failure

/-- The failure, with the step that raised it. -/
def during (failure : Failure) (step : Step) : Failure := .stepFailed step failure

/-- The failure without the steps it was annotated with. -/
def root : Failure → Failure
  | .stepFailed _ source => source.root
  | failure => failure

/-- The stable name for logs. -/
def code : Failure → String
  | .notFound .. => "NotFound"
  | .corruption .. => "Corruption"
  | .unavailable .. => "Unavailable"
  | .inUse .. => "UnsafeState"
  | .leaderNotFound .. => "LeaderNotFound"
  | .ambiguousTopology .. => "AmbiguousTopology"
  | .invalidAddress .. => "InvalidAddress"
  | .unsupportedFormat .. => "UnsupportedFormat"
  | .invalidConfig .. => "InvalidConfig"
  | .deadlineExceeded .. => "DeadlineExceeded"
  | .io .. => "IOError"
  | .inconsistentState .. => "InconsistentState"
  | .stepFailed _ source => source.code
  | .internal .. => "Internal"

/-- Whether the failure is an absence. -/
def isNotFound : Failure → Bool
  | .notFound _ => true
  | _ => false

/-- Whether the failure is an inconsistent state. -/
def isInconsistentState : Failure → Bool
  | .inconsistentState .. => true
  | _ => false

/-- Everything but an absence ends the whole procedure. -/
def isFatal (failure : Failure) : Bool := !failure.root.isNotFound

/-- The exit status of a process that ends with this failure. -/
def exitCode (failure : Failure) : Nat := if failure.root.isInconsistentState then 2 else 1

/-- The wording. -/
def message : Failure → String
  | .notFound what => what ++ " not found"
  | .corruption resource damage => "corrupt " ++ resource ++ ": " ++ damage.message
  | .unavailable path outage =>
      "consensus log at " ++ path ++ " is unavailable: " ++ outage.message
  | .inUse path =>
      "consensus log at " ++ path ++ " is in use by a running instance; stop the agent first"
  | .leaderNotFound members evidence =>
      "unable to find leader node: none of " ++ Numeral.toText members
        ++ " members matched hosts [" ++ String.intercalate ", " evidence ++ "]"
  | .ambiguousTopology members advertised =>
      "refusing to collapse " ++ Numeral.toText members ++ " members with "
        ++ Numeral.toText advertised ++ " advertised API addresses; survivor is ambiguous"
  | .invalidAddress address fault =>
      "invalid address " ++ Text.quoted address ++ ": " ++ fault.message
  | .unsupportedFormat version => "unsupported agent config format " ++ Text.quoted version
  | .invalidConfig fault => "invalid agent config: " ++ fault.message
  | .deadlineExceeded _ => "deadline exceeded"
  | .io path fault => "I/O error on " ++ path ++ ": " ++ fault.message
  | .inconsistentState survivor source =>
      "consensus log now holds only node " ++ Numeral.toText survivor.toNat
        ++ " but a follow-up write failed; repair it by hand: " ++ source.message
  | .stepFailed step source => step.label ++ ": " ++ source.message
  | .internal misuse => "internal error: " ++ misuse.message

end Failure

end QuorumRescue
