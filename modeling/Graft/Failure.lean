import Graft.FileSystem
import Graft.Pattern.Diagnosis

/-!
# Failures of an edit

* `Failure.leavesFile`: after every failure but a failed write the file is known to be as it was.
-/

namespace Graft

/-- Why an edit was not made. -/
inductive Failure
  /-- The file cannot be read as text. -/
  | unreadable (path : Path) (error : FileError)
  /-- The pattern matches nowhere. -/
  | anchorNotFound (path : Path) (diagnosis : Diagnosis)
  /-- The block has blank lines only. -/
  | emptyBlock (path : Path)
  /-- The new text could not be written. -/
  | unwritable (path : Path) (error : FileError)
  /-- The file is no longer what was read. -/
  | changedMeanwhile (path : Path)
  deriving DecidableEq, Repr

namespace Failure

/-- The path of the file that the edit was for. -/
def path : Failure → Path
  | unreadable path _ | anchorNotFound path _ | emptyBlock path | unwritable path _
  | changedMeanwhile path => path

/-- The failure in words. -/
def message : Failure → String
  | unreadable path error => "cannot read " ++ path ++ ": " ++ error.message
  | anchorNotFound path _ => "could not find insertion point in " ++ path
  | emptyBlock path => "nothing to insert into " ++ path ++ ": the block is empty"
  | unwritable path error => "failed to write " ++ path ++ ": " ++ error.message
  | changedMeanwhile path =>
    path ++ " changed on disk while it was being patched; nothing was written"

/-- What the failure comes from, in words, when it comes from the file system. -/
def cause? : Failure → Option String
  | unreadable _ error | unwritable _ error => some error.message
  | _ => none

/-- Whether the file is known to be as it was. -/
def leavesFile : Failure → Bool
  | unwritable _ _ => false
  | _ => true

end Failure

end Graft
