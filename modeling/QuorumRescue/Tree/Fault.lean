/-
  Why an access to a file failed.

  The numbered faults are the ones a file system itself answers with; they show their number, since
  operators search for it.
-/

namespace QuorumRescue

/-- A failed access to a file or directory. -/
inductive IoFault
  | missing
  | present
  | notDirectory
  | isDirectory
  | nameTooLong
  | badName
  | notText
  | reported (text : String)
deriving DecidableEq, Repr

def IoFault.message : IoFault → String
  | .missing => "No such file or directory (os error 2)"
  | .present => "File exists (os error 17)"
  | .notDirectory => "Not a directory (os error 20)"
  | .isDirectory => "Is a directory (os error 21)"
  | .nameTooLong => "File name too long (os error 36)"
  | .badName => "file name contained an unexpected NUL byte"
  | .notText => "stream did not contain valid UTF-8"
  | .reported text => text

end QuorumRescue
