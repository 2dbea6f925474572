/-
  The program, from its arguments to its exit status.

  A run asks for a confirmation, loads the agent's configuration, sets its deadline, plans or does the
  recovery, and reports.  The report of a collapse is printed before the node's own record is
  rewritten, since that may fail after all.  The exit status tells the operator about the disk: 0 that
  all is well, 1 that nothing was changed, 2 that the log was collapsed but something else could not
  follow.  A deadline that no clock can show cannot be set; such a run breaks off, with 101, before it
  has touched anything.

  A run is a function of the file tree.  What the world adds is given to it: the clocks, the machine's
  own addresses, and what the operator typed when asked.  What it leaves is all that was printed, the
  question to the operator included, and the tree.
-/
import QuorumRescue.CommandLine.Options
import QuorumRescue.Prompt
import QuorumRescue.Report

namespace QuorumRescue.CommandLine

/-- What a run leaves for the operator. -/
structure Ending where
  exitCode : Nat
  stdout : String := ""
  stderr : String := ""
deriving DecidableEq, Repr

/-- The clocks of a machine: the time of day, and the whole seconds since it was started. -/
structure Clock where
  now : String
  uptime : Nat := 0
deriving DecidableEq, Repr

/-- A time of day alone stands for that of a machine that was just started. -/
instance : Coe String Clock := ⟨fun now => { now := now }⟩

/-- What the world adds to a run.  `typed` is what was typed at the terminal, if there is one. -/
structure World where
  clock : Clock
  ownAddresses : Except Failure (List String)
  typed : Option (List UInt8)

/-! ## Texts -/

/-- The name and version of the program. -/
def versionText : String := "backstop 0.1.0\n"

/-- The line that shows how the program is called. -/
def usageLine : String := "Usage: backstop [OPTIONS] <TAG>\n"

/-- What is printed when arguments do not fit. -/
def misuseText : String :=
  "error: unexpected, invalid or missing arguments\n\n" ++ usageLine
    ++ "\nFor more information, try '--help'.\n"

/-- The help text. -/
def helpText : String :=
  "Collapse a raft-backed controller cluster to its surviving member\n\n" ++ usageLine
    ++ "\nArguments:\n"
    ++ "  <TAG>  Agent tag of this machine, e.g. machine-0\n"
    ++ "\nOptions:\n"
    ++ "  -y, --yes                      Skip the confirmation prompt\n"
    ++ "      --path <PATH>              Base data directory holding the agents' configuration"
    ++ " [default: /var/lib/controller]\n"
    ++ "      --timeout <TIMEOUT>        Seconds allowed for each step that reads consensus state"
    ++ " [default: 10]\n"
    ++ "      --dry-run                  Report what would change without writing anything\n"
    ++ "      --rewrite-info             Also rewrite this node's own record to the survivor\n"
    ++ "      --log-level <LOG_LEVEL>    Log level [default: info]\n"
    ++ "      --log-format <LOG_FORMAT>  Log output format [default: text]"
    ++ " [possible values: text, json]\n"
    ++ "  -h, --help                     Print help\n"
    ++ "  -V, --version                  Print version\n"

/-- How a run ends whose arguments stop it. -/
def Stop.ending : Stop → Ending
  | .misuse => { exitCode := 2, stderr := misuseText }
  | .help => { exitCode := 0, stdout := helpText }
  | .version => { exitCode := 0, stdout := versionText }

/-- Why no deadline can be set: the time up to it has too many seconds to be told, or it would be
later than the clock can show. -/
inductive Overflow
  | duration
  | instant
deriving DecidableEq, Repr

def Overflow.message : Overflow → String
  | .duration => "overflow when multiplying duration by scalar"
  | .instant => "overflow when adding duration to instant"

/-- How a run ends that breaks off.  The place in the program, which stands before the message, is
left out. -/
def Overflow.ending (overflow : Overflow) : Ending :=
  { exitCode := 101, stderr := overflow.message ++ "\n" }

/-- An ending, with what was printed before. -/
def Ending.after (printed : String) (ending : Ending) : Ending :=
  { ending with stdout := printed ++ ending.stdout }

/-- How a run ends that fails after it has printed something. -/
def failed (printed : String) (failure : Failure) : Ending :=
  { exitCode := failure.exitCode
    stdout := printed
    stderr := "backstop: " ++ failure.message ++ "\n" }

namespace Options

/-! ## The recovery -/

/-- The configuration of the agent that the tag names, and its tag. -/
def config (options : Options) (tree : Tree) : Except Failure (AgentTag × AgentConfig × List String) :=
  match AgentTag.ofText? options.tag with
  | none => .error (.invalidConfig (.notATag options.tag))
  | some tag =>
      match AgentConfig.read (tag.configPath options.path) tree with
      | .error failure => .error failure
      | .ok config =>
          match config.apiAddresses with
          | .error failure => .error failure
          | .ok advertised => .ok (tag, config, advertised)

/-- What the recovery is told. -/
def setup (options : Options) (world : World) (config : AgentConfig) : Setup :=
  { dir := Setup.dirIn config.dataDir
    stepTimeout := options.timeout.toNat * 1000
    ownAddresses := world.ownAddresses }

/-- The number of steps that the whole run has time for. -/
def steps : Nat := 5

/-- The deadline of the whole run.  There is no time if a step has none.  Seconds are counted in 64
bits, of which the clock needs one for a sign. -/
def deadline (options : Options) (clock : Clock) : Except Overflow Deadline :=
  let seconds := options.timeout.toNat * steps
  if UInt64.size ≤ seconds then .error .duration
  else if UInt64.size / 2 ≤ clock.uptime + seconds then .error .instant
  else .ok (if options.timeout = 0 then .expired else .live)

/-- Plans or does the recovery. -/
def outcome (options : Options) (world : World) (setup : Setup) (advertised : List String)
    (deadline : Deadline) (site : Site) : Site × Except Failure Outcome :=
  if options.dryRun then setup.plan advertised deadline site
  else setup.recover world.clock.now advertised deadline site

/-- Rewrites the node's own record, if that was asked for. -/
def follow (options : Options) (outcome : Outcome) (site : Site) :
    Site × Except Failure Unit :=
  if options.rewriteInfo then site.rewriteInfo outcome else (site, .ok ())

/-- A run that has been confirmed. -/
def run (options : Options) (world : World) (tree : Tree) : Tree × Ending :=
  match options.config tree with
  | .error failure => (tree, failed "" failure)
  | .ok (tag, config, advertised) =>
      match options.deadline world.clock with
      | .error overflow => (tree, overflow.ending)
      | .ok deadline =>
          let setup := options.setup world config
          match options.outcome world setup advertised deadline (.inDirectory setup.dir tree) with
          | (site, .error failure) => (site.tree, failed "" failure)
          | (site, .ok outcome) =>
              let report := Report.render outcome tag.toText
              match options.follow outcome site with
              | (site, .error failure) => (site.tree, failed report failure)
              | (site, .ok ()) => (site.tree, { exitCode := 0, stdout := report })

/-! ## Confirmation -/

/-- The warning and its answer.  A dry run needs none, since it does no harm. -/
def consulted (options : Options) (world : World) : Prompt.Exchange :=
  if options.dryRun then ⟨"", .ok true, world.typed.getD []⟩
  else Prompt.consult options.yes world.typed.isSome (world.typed.getD [])

/-- The answer. -/
def confirmed (options : Options) (world : World) : Except Prompt.Fault Bool :=
  (options.consulted world).answer

/-- What was written to ask for it. -/
def asked (options : Options) (world : World) : String := (options.consulted world).output

/-- Whether the operator has to be asked, where that is possible. -/
def asks (options : Options) : Bool := !options.dryRun && !options.yes

/-- A run from the answer on. -/
def answered (options : Options) (world : World) (tree : Tree) : Tree × Ending :=
  match options.confirmed world with
  | .error fault => (tree, { exitCode := 1, stderr := fault.message ++ "\n" })
  | .ok false => (tree, { exitCode := 0, stderr := "Aborted.\n" })
  | .ok true => options.run world tree

/-- A run, with its confirmation.  What was written to ask comes first of all that is printed. -/
def start (options : Options) (world : World) (tree : Tree) : Tree × Ending :=
  let run := options.answered world tree
  (run.1, run.2.after (options.asked world))

end Options

/-- A call of the program. -/
def call (args : List String) (world : World) (tree : Tree) : Tree × Ending :=
  match Options.ofArgs args with
  | .error stop => (tree, stop.ending)
  | .ok options => options.start world tree

end QuorumRescue.CommandLine
