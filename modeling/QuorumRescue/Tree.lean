/-
  File trees.

  All state that survives a run is files: the log's record and lock, the registry's two files, the
  agent's configuration.  A tree says what is at which place, a directory or a file with its bytes, and
  on which files another running instance holds an exclusive lock.

  1. **What is told** of a tree is what is at a place (`find?`), and places are names from one of two
     starting points.  Every access follows a path to a place first (`locate`) and then asks what is
     there.  Every name on the way has to be a directory; what is missing, in the way or of the wrong
     kind is answered with its own fault.

  2. **What is left out.** Modes, times and links are not told, and neither are the faults of a device:
     a tree never runs out of room, everything may be read and written, and nobody else changes it while
     an operation goes on.  Two points lead up, but not beyond a starting point.

  3. **Writing.** Directories are made one by one along a path, and stay if a later one cannot be made.
     Replacing a file is atomic: it either takes place or leaves the tree as it was.  The draft that it
     is written to first is only told by what it can fail for.

  4. **Locks** are advisory and belong to files.  Trying for one says whether it was taken, is held by
     another instance, or could not be tried for, and may make the file that is to be locked.  An
     operation gives its lock back when it has ended, so only the locks of others are kept.
-/
import QuorumRescue.Tree.Fault
import QuorumRescue.Tree.Path

namespace QuorumRescue

/-- What can be at a place. -/
inductive Entry
  | directory
  | file (content : ByteArray)

instance : DecidableEq Entry
  | .directory, .directory => isTrue rfl
  | .directory, .file _ => isFalse nofun
  | .file _, .directory => isFalse nofun
  | .file a, .file b =>
      match decEq a.data b.data with
      | isTrue h => isTrue (congrArg Entry.file (ByteArray.ext h))
      | isFalse h => isFalse fun he => h (congrArg ByteArray.data (Entry.file.inj he))

/-- A file tree, with the files that another instance has locked. -/
structure Tree where
  entries : List (Place × Entry)
  locked : List Place

namespace Tree

/-! ## What is where -/

/-- The tree that has nothing but its starting points. -/
def empty : Tree := ⟨[], []⟩

/-- What is at a place; the starting points are always directories. -/
def find? (tree : Tree) (place : Place) : Option Entry :=
  if place.isStart then some .directory
  else (tree.entries.find? fun e => e.1 = place).map (·.2)

/-- The tree with `entry` at a place. -/
def put (tree : Tree) (place : Place) (entry : Entry) : Tree :=
  { tree with entries := (place, entry) :: tree.entries.filter fun e => e.1 ≠ place }

/-- Whether anything is inside a directory. -/
def hasChildren (tree : Tree) (place : Place) : Bool :=
  tree.entries.any fun e =>
    e.1.absolute == place.absolute && !e.1.isStart && e.1.names.dropLast == place.names

/-! ## Following a path -/

/-- Names longer than this are refused. -/
def longestName : Nat := 255

/-- Paths have to be shorter than this. -/
def longestPath : Nat := 4096

/-- One name further, from a directory.  Two points at a starting point stay there, so relative paths that
leave the working directory are outside of what is said (`Place.parent`). -/
def step (here : Place) (name : String) : Except IoFault Place :=
  if name = "" ∨ name = "." then .ok here
  else if name = ".." then .ok here.parent
  else if longestName < name.utf8ByteSize then .error .nameTooLong
  else .ok (here.child name)

/-- Follows names down; whatever is passed has to be a directory. -/
def walk (tree : Tree) (here : Place) : List String → Except IoFault Place
  | [] => .ok here
  | name :: rest =>
      match tree.find? here with
      | none => .error .missing
      | some (.file _) => .error .notDirectory
      | some .directory =>
          match step here name with
          | .error fault => .error fault
          | .ok next => walk tree next rest

/-- The starting point of a path, if the path can be followed at all. -/
def start (path : Path) : Except IoFault Place :=
  if path.text.isEmpty then .error .missing
  else if path.text.toList.contains (Char.ofNat 0) then .error .badName
  else if longestPath ≤ path.text.utf8ByteSize then .error .nameTooLong
  else .ok ⟨path.isAbsolute, []⟩

/-- The place a path leads to, whether or not anything is there. -/
def locate (tree : Tree) (path : Path) : Except IoFault Place :=
  match start path with
  | .error fault => .error fault
  | .ok here => walk tree here path.names

/-- What a path leads to. -/
def entryAt (tree : Tree) (path : Path) : Except IoFault Entry :=
  match tree.locate path with
  | .error fault => .error fault
  | .ok place =>
      match tree.find? place with
      | some entry => .ok entry
      | none => .error .missing

/-! ## Reading -/

/-- Whether a path leads to a directory. -/
def isDirectory (tree : Tree) (path : Path) : Bool :=
  match tree.entryAt path with
  | .ok .directory => true
  | _ => false

/-- The bytes of a file. -/
def read (tree : Tree) (path : Path) : Except IoFault ByteArray :=
  match tree.entryAt path with
  | .ok (.file content) => .ok content
  | .ok .directory => .error .isDirectory
  | .error fault => .error fault

/-- Whether anything is inside the directory a path leads to. -/
def isOccupied (tree : Tree) (path : Path) : Except IoFault Bool :=
  match tree.locate path with
  | .error fault => .error fault
  | .ok place =>
      match tree.find? place with
      | some .directory => .ok (tree.hasChildren place)
      | some (.file _) => .error .notDirectory
      | none => .error .missing

/-! ## Writing -/

/-- Follows names down and makes the directories that are missing on the way. -/
def makeAlong (tree : Tree) (here : Place) : List String → Tree × Except IoFault Unit
  | [] => (tree, .ok ())
  | name :: rest =>
      match step here name with
      | .error fault => (tree, .error fault)
      | .ok next =>
          match tree.find? next with
          | some .directory => makeAlong tree next rest
          | some (.file _) => (tree, .error (if rest.isEmpty then .present else .notDirectory))
          | none => makeAlong (tree.put next .directory) next rest

/-- Makes a directory and whatever is missing above it. -/
def makeDirectories (tree : Tree) (path : Path) : Tree × Except IoFault Unit :=
  match start path with
  | .error fault => (tree, .error fault)
  | .ok here => makeAlong tree here path.names

/-- Which of two paths a failed replacement is about. -/
inductive ReplaceFault
  | directory (fault : IoFault)
  | file (fault : IoFault)

/-- A name that new bytes have until they take a file's place. -/
def draftName : String := ".tmp000000"

/-- Puts new bytes in the place of a file in a directory.  They are written beside it first, so the
directory has to be there and their own path must not be too long; a directory under the name
itself cannot be replaced. -/
def replace (tree : Tree) (dir : Path) (name : String) (content : ByteArray) :
    Tree × Except ReplaceFault Unit :=
  match tree.locate (dir.child draftName) with
  | .error fault => (tree, .error (.directory fault))
  | .ok _ =>
      match tree.locate (dir.child name) with
      | .error fault => (tree, .error (.file fault))
      | .ok place =>
          match tree.find? place with
          | some .directory => (tree, .error (.file .isDirectory))
          | _ => (tree.put place (.file content), .ok ())

/-! ## Locks -/

/-- What trying for the exclusive lock of a file comes to. -/
inductive LockAnswer
  | taken
  | noFile
  | heldElsewhere
  | failed (fault : IoFault)
deriving DecidableEq

/-- The tree with a new empty file at a place.  A lock on a file that was there before is not a lock
on this one. -/
def create (tree : Tree) (place : Place) : Tree :=
  { tree.put place (.file ByteArray.empty) with locked := tree.locked.filter fun p => p ≠ place }

/-- Tries for the exclusive lock of a file, which is made first if `create` says so. -/
def tryLock (tree : Tree) (path : Path) (create : Bool) : Tree × LockAnswer :=
  match tree.locate path with
  | .error .missing => (tree, if create then .failed .missing else .noFile)
  | .error fault => (tree, .failed fault)
  | .ok place =>
      match tree.find? place with
      | some .directory => (tree, .failed .isDirectory)
      | some (.file _) => (tree, if tree.locked.contains place then .heldElsewhere else .taken)
      | none =>
          if create then (tree.create place, .taken) else (tree, .noFile)

end Tree

end QuorumRescue
