/-
  The program in its world.

  A run is a function of a file tree, so this layer only carries things back and forth: it looks at
  the few files that a run can depend on, asks the operator if somebody has to be asked, and puts
  back what the run changed.  The lock of the log is taken for as long as the run lasts; if it cannot
  be had, the tree says that another instance holds it.  A changed file is written beside the old one
  and then renamed, so that a crash leaves one or the other.
-/
import QuorumRescue.CommandLine
import QuorumRescue.Network.Interface
import Std.Time

namespace QuorumRescue.World

/-! ## Looking -/

/-- A place as the operating system names it. -/
def name (place : Place) : String :=
  (if place.absolute then "/" else "") ++ String.intercalate "/" place.names

/-- What is at a place. -/
def observe (place : Place) : IO (Option Entry) := do
  let path := (IO.FS.DirEntry.mk "." (name place)).path
  if ← path.isDir then return some .directory
  else if ← path.pathExists then return some (.file (← IO.FS.readBinFile path))
  else return none

/-- Adds to a tree what is on the way along names, and at its end. -/
def followNames (tree : Tree) (here : Place) : List String → IO Tree
  | [] => return tree
  | next :: rest =>
      match Tree.step here next with
      | .error _ => return tree
      | .ok there => do
          match ← observe there with
          | some entry => followNames (tree.put there entry) there rest
          | none => return tree

/-- Adds to a tree what is on the way along a path, and at its end. -/
def follow (tree : Tree) (path : Path) : IO Tree :=
  followNames tree ⟨path.isAbsolute, []⟩ path.names

/-- The files that a recovery can depend on. -/
def filesOf (dir : Path) : List Path :=
  let log : LogDirectory := ⟨dir⟩
  let registry : RegistryDirectory := ⟨dir⟩
  [log.recordPath, log.lockPath, registry.clusterPath, registry.infoPath]

/-- Takes the lock of a log, if its file is there; says what is locked by somebody else. -/
def takeLock (tree : Tree) (path : Path) : IO (List Place × Option IO.FS.Handle) := do
  match tree.locate path with
  | .error _ => return ([], none)
  | .ok place =>
      match tree.find? place with
      | some (.file _) =>
          let handle ← IO.FS.Handle.mk (name place) .readWrite
          if ← handle.tryLock then return ([], some handle) else return ([place], some handle)
      | _ => return ([], none)

/-! ## Changing -/

/-- Puts an entry at a place. -/
def change (place : Place) : Entry → IO Unit
  | .directory => IO.FS.createDirAll (name place)
  | .file content => do
      let draft := name place ++ ".new"
      IO.FS.writeBinFile draft content
      IO.FS.rename draft (name place)

/-- Puts back what is different in a tree, directories before what is in them. -/
def changeAll (before after : Tree) : IO Unit :=
  after.entries.reverse.forM fun e =>
    if before.find? e.1 = some e.2 then pure () else change e.1 e.2

/-! ## Running -/

/-- The time of day in the universal zone. -/
def timeOfDay : IO String := do
  let now := Std.Time.PlainDateTime.ofWallTime (.ofDuration (← Std.Time.Timestamp.now).val)
  return now.format "uuuu-MM-dd'T'HH:mm:ss.SSSSSSSSS" ++ "+00:00"

/-- The seconds since the machine was started. -/
def uptime : IO Nat := return (← IO.monoMsNow) / 1000

/-- A line as it is typed, with its line feed. -/
def readLine (input : IO.FS.Stream) : IO (List UInt8) := do
  let mut line := #[]
  repeat
    match (← input.read 1).data[0]? with
    | none => break
    | some byte =>
      line := line.push byte
      if byte = 10 then break
  return line.toList

/-- What the operator types, if there is a terminal and somebody has to be asked.  The question is
printed here, since it has to be read before it is answered. -/
def askOperator (options : CommandLine.Options) : IO (Option (List UInt8)) := do
  let input ← IO.getStdin
  if options.asks && (← input.isTty) then
    IO.print (Prompt.text Prompt.warning)
    (← IO.getStdout).flush
    return some (← readLine input)
  else return none

/-- Prints what a run left for the operator after it was confirmed. -/
def finish (ending : CommandLine.Ending) : IO UInt32 := do
  IO.print ending.stdout
  IO.eprint ending.stderr
  return UInt32.ofNat ending.exitCode

/-- Runs with options.  The machine's own addresses are never asked for: where they could be of use,
the recovery has been refused before. -/
def run (options : CommandLine.Options) : IO UInt32 := do
  let typed ← askOperator options
  let world : CommandLine.World :=
    ⟨⟨← timeOfDay, ← uptime⟩, .error Network.noAddress, typed⟩
  let tag := AgentTag.ofText? options.tag
  let tree ← match tag with
    | some tag => follow .empty (tag.configPath options.path)
    | none => pure Tree.empty
  match options.config tree with
  | .error _ => finish (options.answered world tree).2
  | .ok (_, config, _) =>
      let dir := Setup.dirIn config.dataDir
      let tree ← (filesOf dir).foldlM follow tree
      let (locked, handle) ← takeLock tree (LogDirectory.mk dir).lockPath
      let tree := { tree with locked := locked }
      let (after, ending) := options.answered world tree
      changeAll tree after
      handle.forM fun handle => handle.unlock
      finish ending

end QuorumRescue.World

/-- The program. -/
def main (args : List String) : IO UInt32 :=
  match QuorumRescue.CommandLine.Options.ofArgs args with
  | .error stop => QuorumRescue.World.finish stop.ending
  | .ok options => QuorumRescue.World.run options
