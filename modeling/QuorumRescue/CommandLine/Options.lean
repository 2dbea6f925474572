/-
  The arguments of the program.

  There is one plain argument, the tag of the agent on this machine.  Settings have a value, which is
  the next argument or follows an equals sign; flags have none.  Short flags may share a dash.  Nothing
  may be given twice.  A value that starts with a dash has to follow an equals sign, except the dash
  alone, and after two dashes all arguments are plain.

  Arguments are taken from left to right.  The first one that does not fit ends the reading, and so does
  a flag that asks for the help text or the version.  What is wrong with an argument is not told apart,
  since nothing depends on it: such a run prints how the program is called, and ends with 2.

  Of the values, the number of seconds and the format of log lines are read here.  The tag and the path
  are taken as they are, unless the path is empty, and looked at by those who use them.  Whatever was
  left out has a default, but for the tag.
-/
import QuorumRescue.Agent.Config

namespace QuorumRescue.CommandLine

/-! ## What can be asked for -/

/-- How log lines are written. -/
inductive LogFormat
  | text
  | json
deriving DecidableEq, Repr

/-- The arguments, with defaults for what was left out.  `timeout` is in seconds. -/
structure Options where
  tag : String
  yes : Bool
  path : Path
  timeout : UInt64
  dryRun : Bool
  rewriteInfo : Bool
  logLevel : String
  logFormat : LogFormat
deriving DecidableEq, Repr

/-- Why reading ends early. -/
inductive Stop
  | misuse
  | help
  | version
deriving DecidableEq, Repr

/-- An argument without a value. -/
inductive Flag
  | yes
  | dryRun
  | rewriteInfo
  | help
  | version
deriving DecidableEq, Repr

/-- An argument with a value. -/
inductive Setting
  | path
  | timeout
  | logLevel
  | logFormat
deriving DecidableEq, Repr

def Flag.ofName? (name : String) : Option Flag :=
  if name = "yes" then some .yes
  else if name = "dry-run" then some .dryRun
  else if name = "rewrite-info" then some .rewriteInfo
  else if name = "help" then some .help
  else if name = "version" then some .version
  else none

def Flag.ofLetter? (letter : Char) : Option Flag :=
  if letter = 'y' then some .yes
  else if letter = 'h' then some .help
  else if letter = 'V' then some .version
  else none

def Setting.ofName? (name : String) : Option Setting :=
  if name = "path" then some .path
  else if name = "timeout" then some .timeout
  else if name = "log-level" then some .logLevel
  else if name = "log-format" then some .logFormat
  else none

def LogFormat.ofWord? (word : String) : Option LogFormat :=
  if word = "text" then some .text
  else if word = "json" then some .json
  else none

/-! ## Taking arguments one by one -/

/-- What has been given so far. -/
structure Given where
  tag : Option String := none
  yes : Bool := false
  path : Option String := none
  timeout : Option UInt64 := none
  dryRun : Bool := false
  rewriteInfo : Bool := false
  logLevel : Option String := none
  logFormat : Option LogFormat := none

namespace Given

/-- Takes a flag. -/
def raise (given : Given) : Flag → Except Stop Given
  | .yes => if given.yes then .error .misuse else .ok { given with yes := true }
  | .dryRun => if given.dryRun then .error .misuse else .ok { given with dryRun := true }
  | .rewriteInfo =>
      if given.rewriteInfo then .error .misuse else .ok { given with rewriteInfo := true }
  | .help => .error .help
  | .version => .error .version

/-- Takes the flags that share a dash. -/
def raiseAll : Given → List Char → Except Stop Given
  | given, [] => .ok given
  | given, letter :: rest =>
      match Flag.ofLetter? letter with
      | none => .error .misuse
      | some flag =>
          match given.raise flag with
          | .error stop => .error stop
          | .ok given => raiseAll given rest

/-- A number of seconds, which may have a plus sign. -/
def seconds (value : String) : Option UInt64 :=
  match value.toList with
  | '+' :: digits => Numeral.word digits
  | digits => Numeral.word digits

/-- Keeps the value of a setting that was not given before. -/
def keep {α : Type} (before value : Option α) : Except Stop (Option α) :=
  if before.isSome || value.isNone then .error .misuse else .ok value

/-- Takes a setting. -/
def set (given : Given) (setting : Setting) (value : String) : Except Stop Given :=
  match setting with
  | .path =>
      (keep given.path (if value.isEmpty then none else some value)).map fun v =>
        { given with path := v }
  | .timeout => (keep given.timeout (seconds value)).map fun v => { given with timeout := v }
  | .logLevel => (keep given.logLevel (some value)).map fun v => { given with logLevel := v }
  | .logFormat =>
      (keep given.logFormat (LogFormat.ofWord? value)).map fun v => { given with logFormat := v }

/-- Takes a plain argument. -/
def place (given : Given) (arg : String) : Except Stop Given :=
  (keep given.tag (some arg)).map fun v => { given with tag := v }

/-- Takes plain arguments. -/
def placeAll : Given → List String → Except Stop Given
  | given, [] => .ok given
  | given, arg :: rest =>
      match given.place arg with
      | .error stop => .error stop
      | .ok given => placeAll given rest

/-- Whether an argument starts with a dash and is more than that. -/
def startsOption (arg : String) : Bool :=
  match arg.toList with
  | '-' :: _ :: _ => true
  | _ => false

/-- Takes an argument that starts with two dashes, given the ones behind it.  The answer says whether
the next one was taken too, as a value. -/
def takeLong (given : Given) (body : List Char) (rest : List String) :
    Except Stop (Given × Bool) :=
  match Text.splitFirst '=' body with
  | some (name, value) =>
      match Setting.ofName? (String.ofList name) with
      | none => .error .misuse
      | some setting => (given.set setting (String.ofList value)).map fun given => (given, false)
  | none =>
      match Setting.ofName? (String.ofList body), rest with
      | some _, [] => .error .misuse
      | some setting, value :: _ =>
          if startsOption value then .error .misuse
          else (given.set setting value).map fun given => (given, true)
      | none, _ =>
          match Flag.ofName? (String.ofList body) with
          | none => .error .misuse
          | some flag => (given.raise flag).map fun given => (given, false)

/-- Takes all arguments; with `skip` the first one has been taken as a value already. -/
def takeAll : (skip : Bool) → Given → List String → Except Stop Given
  | _, given, [] => .ok given
  | true, given, _ :: rest => takeAll false given rest
  | false, given, arg :: rest =>
      match arg.toList with
      | ['-', '-'] => given.placeAll rest
      | '-' :: '-' :: body =>
          match given.takeLong body rest with
          | .error stop => .error stop
          | .ok (given, skip) => takeAll skip given rest
      | '-' :: letter :: letters =>
          match given.raiseAll (letter :: letters) with
          | .error stop => .error stop
          | .ok given => takeAll false given rest
      | _ =>
          match given.place arg with
          | .error stop => .error stop
          | .ok given => takeAll false given rest

/-- Fills in what was left out; only the tag has no default. -/
def complete (given : Given) : Except Stop Options :=
  match given.tag with
  | none => .error .misuse
  | some tag => .ok {
      tag := tag
      yes := given.yes
      path := ⟨given.path.getD AgentConfig.defaultDataDir⟩
      timeout := given.timeout.getD 10
      dryRun := given.dryRun
      rewriteInfo := given.rewriteInfo
      logLevel := given.logLevel.getD "info"
      logFormat := given.logFormat.getD .text }

end Given

/-- The options that arguments stand for. -/
def Options.ofArgs (args : List String) : Except Stop Options :=
  match Given.takeAll false {} args with
  | .error stop => .error stop
  | .ok given => given.complete

example : (Options.ofArgs ["-y", "--timeout=+3", "machine-0"]).toOption.map Options.timeout = some 3 := by
  decide
example : Options.ofArgs ["--path", "-y", "machine-0"] = .error .misuse := rfl

end QuorumRescue.CommandLine
