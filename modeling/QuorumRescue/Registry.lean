/-
  The node registry.

  Beside the log, each node keeps a registry: the members it knows, and its own record.  It has no say
  in a recovery.  It is read only to show where it differs from the log, and it is written after the
  log, so that the node comes up with the membership that the log holds.

  A registry lives in two files of the data directory, or in memory, where it may be set up to fail.
  The files are YAML texts that others may have written, so reading takes any layout of the fields and
  passes over those it does not know; writing lays out all members alike.  A file that is missing is an
  absence, one that cannot be read as members is damaged, and both leave the log as it is.
-/
import QuorumRescue.Failure
import QuorumRescue.Registry.Layout
import QuorumRescue.Tree

namespace QuorumRescue

/-- The directory of a registry. -/
structure RegistryDirectory where
  path : Path
deriving DecidableEq, Repr

namespace RegistryDirectory

/-- The name of the file with all members. -/
def clusterName : String := "cluster.yaml"

/-- The name of the file with the node's own record. -/
def infoName : String := "info.yaml"

def clusterPath (registry : RegistryDirectory) : Path := registry.path.child clusterName
def infoPath (registry : RegistryDirectory) : Path := registry.path.child infoName

/-- Reads one of the files; `what` is its name in messages. -/
def readFile {α : Type} (what : String) (path : Path)
    (decode : ByteArray → Except DecodeFault α) (tree : Tree) : Except Failure α :=
  match tree.read path with
  | .error .missing => .error (.notFound (what ++ " at " ++ path.text))
  | .error fault => .error (.io path.text fault)
  | .ok bytes =>
      match decode bytes with
      | .error fault => .error (.corruption path.text (.undecodable fault))
      | .ok value => .ok value

/-- Writes one of the files. -/
def writeFile (registry : RegistryDirectory) (name : String) (text : List Char) (tree : Tree) :
    Tree × Except Failure Unit :=
  match tree.replace registry.path name (String.ofList text).toUTF8 with
  | (tree, .ok ()) => (tree, .ok ())
  | (tree, .error (.directory fault)) => (tree, .error (.io registry.path.text fault))
  | (tree, .error (.file fault)) => (tree, .error (.io (registry.path.child name).text fault))

def members (registry : RegistryDirectory) (tree : Tree) : Except Failure (List Member) :=
  readFile "node registry" registry.clusterPath Registry.readCluster tree

def info (registry : RegistryDirectory) (tree : Tree) : Except Failure Member :=
  readFile "node info" registry.infoPath Registry.readInfo tree

def setMembers (registry : RegistryDirectory) (members : List Member) (tree : Tree) :
    Tree × Except Failure Unit :=
  registry.writeFile clusterName (Registry.clusterText members) tree

def setInfo (registry : RegistryDirectory) (member : Member) (tree : Tree) :
    Tree × Except Failure Unit :=
  registry.writeFile infoName (Registry.infoText member) tree

end RegistryDirectory

/-- The ways in which a registry in memory is set up to fail. -/
structure RegistryFailures where
  members : Option Failure := none
  setMembers : Option Failure := none
  setInfo : Option Failure := none

/-- A registry.  In memory, members or record are missing until they have been written. -/
inductive Registry
  | onDisk (directory : RegistryDirectory)
  | inMemory (members : Option (List Member)) (info : Option Member) (failures : RegistryFailures)

namespace Registry

/-- The members in the registry. -/
def members (registry : Registry) (tree : Tree) : Except Failure (List Member) :=
  match registry with
  | .onDisk directory => directory.members tree
  | .inMemory members _ failures =>
      match failures.members, members with
      | some failure, _ => .error failure
      | none, some members => .ok members
      | none, none => .error (.notFound "node registry")

/-- The node's own record. -/
def info (registry : Registry) (tree : Tree) : Except Failure Member :=
  match registry with
  | .onDisk directory => directory.info tree
  | .inMemory _ (some member) _ => .ok member
  | .inMemory _ none _ => .error (.notFound "node info")

/-- Replaces the members. -/
def setMembers (registry : Registry) (members : List Member) (tree : Tree) :
    (Registry × Tree) × Except Failure Unit :=
  match registry with
  | .onDisk directory =>
      match directory.setMembers members tree with
      | (tree, result) => ((registry, tree), result)
  | .inMemory _ info failures =>
      match failures.setMembers with
      | some failure => ((registry, tree), .error failure)
      | none => ((.inMemory (some members) info failures, tree), .ok ())

/-- Replaces the node's own record. -/
def setInfo (registry : Registry) (member : Member) (tree : Tree) :
    (Registry × Tree) × Except Failure Unit :=
  match registry with
  | .onDisk directory =>
      match directory.setInfo member tree with
      | (tree, result) => ((registry, tree), result)
  | .inMemory members _ failures =>
      match failures.setInfo with
      | some failure => ((registry, tree), .error failure)
      | none => ((.inMemory members (some member) failures, tree), .ok ())

end Registry

end QuorumRescue
