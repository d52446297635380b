import Graft.Edit
import Graft.Event

/-!
# Running an edit

A run reads a file, plans the edit on what was read, and commits the text with the block put in. A
commit resolves the path anew and reads the file once more; it replaces the content only if the file
still has the fingerprint of the snapshot.

* `Edit.run`: what a run comes to, and the file system afterwards.
* `Edit.events`: what there is to be told of a run.
* `Edit.run_preview`: a preview leaves the file system alone.
-/

namespace Graft

namespace Snapshot

/-- The file that a path names, as it is read. -/
def read (fs : FileSystem) (path : Path) : Except Failure Snapshot :=
  match fs.readText path with
  | .ok text => .ok (ofText path text)
  | .error e => .error (.unreadable path e)

/-- Why a commit finds no file to replace. A file that is gone was changed by someone else; any
other obstacle counts as a failed write. -/
def recheckFailure (path : Path) : FileError → Failure
  | .notFound => .changedMeanwhile path
  | e => .unwritable path e

/-- Replace the content of the file that a snapshot was made of, if it is still what was read. The
file is looked at, and replaced, by its path from the root. -/
def commit (snapshot : Snapshot) (fs : FileSystem) (content : Text) : Except Failure FileSystem :=
  -- the path may lead elsewhere by now
  match fs.canonicalize snapshot.path with
  | .error e => .error (recheckFailure snapshot.path e)
  | .ok target =>
    match fs.readBytes target with
    | .error e => .error (recheckFailure snapshot.path e)
    | .ok bytes =>
      if snapshot.isUnchanged bytes then
        match fs.replace target content.bytes with
        | .ok fs => .ok fs
        | .error e => .error (.unwritable snapshot.path e)
      else .error (.changedMeanwhile snapshot.path)

end Snapshot

/-- What a run comes to. -/
inductive Outcome
  /-- The block went in, or would go in. -/
  | inserted (file : Path) (line inserted matchCount : Nat) (written : Bool) (before after : Text)
  /-- The block is there already, from this line number on. -/
  | alreadyApplied (file : Path) (line : Nat)
  deriving DecidableEq, Repr

namespace Edit

/-- The outcome of an insertion into a snapshot. -/
def outcome (snapshot : Snapshot) (insertion : Insertion) (written : Bool) : Outcome :=
  .inserted snapshot.path insertion.lineNumber insertion.inserted insertion.matchCount written
    snapshot.text insertion.text

/-- Run an edit on the file that a path names. -/
def run (edit : Edit) (fs : FileSystem) (path : Path) (mode : Mode) :
    Except Failure Outcome × FileSystem :=
  match Snapshot.read fs path with
  | .error e => (.error e, fs)
  | .ok snapshot =>
    match edit.plan snapshot with
    | .error e => (.error e, fs)
    | .ok (.alreadyPresent line) => (.ok (.alreadyApplied path line), fs)
    | .ok (.insert insertion) =>
      match mode with
      | .preview => (.ok (outcome snapshot insertion false), fs)
      | .apply =>
        match snapshot.commit fs insertion.text with
        | .error e => (.error e, fs)
        | .ok fs => (.ok (outcome snapshot insertion true), fs)

/-- What there is to be told of planning an edit. -/
def planEvents (edit : Edit) (snapshot : Snapshot) : List Event :=
  match edit.plan snapshot with
  | .ok (.alreadyPresent line) => [.present snapshot.path line]
  | .ok (.insert insertion) =>
    [.searched snapshot.path insertion.matchCount,
      .inserted insertion.anchor insertion.index insertion.inserted]
  | .error (.anchorNotFound path _) => [.searched path 0]
  | .error _ => []

/-- What there is to be told of a run. -/
def events (edit : Edit) (fs : FileSystem) (path : Path) (mode : Mode) : List Event :=
  match Snapshot.read fs path with
  | .error _ => []
  | .ok snapshot =>
    let written :=
      match (edit.run fs path mode).1 with
      | .ok (.inserted file _ _ _ true _ after) => [Event.written file after.bytes.size]
      | _ => []
    .read path snapshot.lines.length :: edit.planEvents snapshot ++ written

/-- A preview leaves the file system alone. -/
theorem run_preview (edit : Edit) (fs : FileSystem) (path : Path) :
    (edit.run fs path .preview).2 = fs := by
  unfold run
  split
  · rfl
  · split <;> rfl

end Edit

end Graft
