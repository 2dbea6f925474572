/-
  Paths and the places they lead to.

  A path is the text that an operator wrote or a configuration gave, extended by the names of this
  program's own files; messages show it unchanged.  Where it leads is a place: the names on the way
  down from one of two starting points, the root of the file system or the working directory.
  Repeated separators and single points say nothing about a place.

  Nothing is known about where the working directory is.  A way out of it, two points at the start of a
  relative path, is therefore not told from staying in it: `../base` and `base` are one place here, as
  `/../base` and `/base` are for the system.  What is said about relative paths is said of those that
  lead to something inside the working directory.
-/
import QuorumRescue.Text.Split

namespace QuorumRescue

/-- A path, as it is written. -/
structure Path where
  text : String
deriving DecidableEq, Repr

namespace Path

/-- The path of a name inside the directory. -/
def child (dir : Path) (name : String) : Path :=
  if dir.text.isEmpty then ⟨name⟩
  else if dir.text.toList.getLast? = some '/' then ⟨dir.text ++ name⟩
  else ⟨dir.text ++ "/" ++ name⟩

/-- Whether the path starts at the root of the file system. -/
def isAbsolute (path : Path) : Bool := path.text.toList.head? == some '/'

/-- The stretches of a text between separators. -/
def stretches : List Char → List (List Char)
  | [] => [[]]
  | c :: rest =>
      match stretches rest with
      | first :: more => if c = '/' then [] :: first :: more else (c :: first) :: more
      | [] => [[c]]

/-- The names between the separators, empty ones included. -/
def names (path : Path) : List String := (stretches path.text.toList).map String.ofList

end Path

/-- Where a path leads: names on the way down from the root or from the working directory. -/
structure Place where
  absolute : Bool
  names : List String
deriving DecidableEq, Repr

namespace Place

/-- The place of a name inside this one. -/
def child (place : Place) (name : String) : Place := { place with names := place.names ++ [name] }

/-- The directory around this place; a starting point is its own.  That is so for the root.  For the working
directory it is a restriction: paths that lead out of it are not followed to where they lead. -/
def parent (place : Place) : Place := { place with names := place.names.dropLast }

/-- Whether this is one of the two starting points. -/
def isStart (place : Place) : Bool := place.names.isEmpty

end Place

example : (Path.mk "base").child "raft" = ⟨"base/raft"⟩ := by decide
example : (Path.mk "base/").child "raft" = ⟨"base/raft"⟩ := by decide

end QuorumRescue
