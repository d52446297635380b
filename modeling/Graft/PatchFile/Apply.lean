import Graft.Edit.Run
import Graft.PatchFile

/-!
# Applying patch files

The patches of a patch file run one after another on the file system that the patches before them
left. Applying stops at the first patch that fails; checking previews every patch.

* `Patch.run`: what a patch comes to, and the file system afterwards.
* `PatchFile.apply`, `PatchFile.check`: the results of the patches that were attempted.
-/

namespace Graft

/-- Why a patch is no edit. -/
inductive InvalidPatch
  /-- An anchor entry is no condition. -/
  | anchorEntry (error : EntryError)
  /-- The block comes from no source or from two. -/
  | blockSource
  deriving DecidableEq, Repr

/-- Why a patch is no edit, in words. -/
def InvalidPatch.message : InvalidPatch → String
  | anchorEntry error => error.message
  | blockSource => "exactly one of insert.text or insert.path is required"

/-- Why a patch was not applied. -/
inductive PatchFailure
  /-- The edit was not made. -/
  | edit (failure : Failure)
  /-- The file with the block cannot be read. -/
  | blockUnreadable (path : Path) (error : FileError)
  /-- The patch is no edit. -/
  | invalid (reason : InvalidPatch)
  deriving DecidableEq, Repr

namespace PatchFailure

/-- The failure in words. -/
def message : PatchFailure → String
  | edit failure => failure.message
  | blockUnreadable path error => "cannot read block file " ++ path ++ ": " ++ error.message
  | invalid reason => "invalid patch: " ++ reason.message

/-- What the failure comes from, in words, the nearest cause first. -/
def causes : PatchFailure → List String
  | edit failure => failure.message :: failure.cause?.toList
  | blockUnreadable _ error => [error.message]
  | invalid _ => []

end PatchFailure

/-- What a patch came to, under its name. -/
abbrev PatchResult := String × Except PatchFailure Outcome

namespace Patch

/-- The path of a block file, read from the base directory if there is one. -/
def blockPath (base : Option Path) (path : Path) : Path :=
  match base with
  | some base => base.join path
  | none => path

/-- The text of the block. -/
def blockText (patch : Patch) (fs : FileSystem) (base : Option Path) : Except PatchFailure Text :=
  match patch.insert.text, patch.insert.path with
  | some text, none => .ok text
  | none, some path =>
    match fs.readText (blockPath base path) with
    | .ok text => .ok text
    | .error e => .error (.blockUnreadable (blockPath base path) e)
  | _, _ => .error (.invalid .blockSource)

/-- The edit that a patch stands for. -/
def edit (patch : Patch) (fs : FileSystem) (base : Option Path) : Except PatchFailure Edit :=
  match patch.pattern with
  | .error e => .error (.invalid (.anchorEntry e))
  | .ok pattern =>
    match patch.blockText fs base with
    | .error e => .error e
    | .ok text =>
      .ok
        { pattern := pattern
          block := .ofText text
          placement := patch.placement
          skipIfPresent := patch.skipIfPresent }

/-- The path of the file to edit, read from the workspace. -/
def target (patch : Patch) (workspace : Path) : Path :=
  workspace.join patch.file

/-- Run a patch. -/
def run (patch : Patch) (fs : FileSystem) (base : Option Path) (workspace : Path) (mode : Mode) :
    Except PatchFailure Outcome × FileSystem :=
  match patch.edit fs base with
  | .error e => (.error e, fs)
  | .ok edit =>
    let (result, fs) := edit.run fs (patch.target workspace) mode
    (result.mapError PatchFailure.edit, fs)

/-- What there is to be told of a patch. -/
def events (patch : Patch) (fs : FileSystem) (base : Option Path) (workspace : Path)
    (mode : Mode) : List Event :=
  match patch.edit fs base with
  | .error _ => []
  | .ok edit =>
    .applying patch.id (patch.target workspace) mode
      :: edit.events fs (patch.target workspace) mode

end Patch

/-- Whether a failed patch ends a run. -/
inductive OnFailure
  /-- The patches after it are left out. -/
  | stop
  /-- The patches after it run all the same. -/
  | proceed
  deriving DecidableEq, Repr

namespace PatchFile

/-- Run patches one after another; the results of those that were attempted, and the file system
afterwards. -/
def runAll (base : Option Path) (workspace : Path) (mode : Mode) (onFailure : OnFailure) :
    List Patch → FileSystem → List PatchResult × FileSystem
  | [], fs => ([], fs)
  | patch :: rest, fs =>
    let (result, after) := patch.run fs base workspace mode
    match result, onFailure with
    | .error e, .stop => ([(patch.id, .error e)], after)
    | result, _ =>
      let (results, final) := runAll base workspace mode onFailure rest after
      ((patch.id, result) :: results, final)

/-- What there is to be told of a run of patches. -/
def eventsOfAll (base : Option Path) (workspace : Path) (mode : Mode) (onFailure : OnFailure) :
    List Patch → FileSystem → List Event
  | [], _ => []
  | patch :: rest, fs =>
    let (result, after) := patch.run fs base workspace mode
    patch.events fs base workspace mode ++
      match result, onFailure with
      | .error _, .stop => [.stopping patch.id]
      | _, _ => eventsOfAll base workspace mode onFailure rest after

/-- Apply a patch file, or preview that, up to the first patch that fails. -/
def apply (file : PatchFile) (fs : FileSystem) (workspace : Path) (mode : Mode) :
    List PatchResult × FileSystem :=
  runAll file.baseDirectory workspace mode .stop file.patches fs

/-- What there is to be told of applying a patch file. -/
def applyEvents (file : PatchFile) (fs : FileSystem) (workspace : Path) (mode : Mode) :
    List Event :=
  eventsOfAll file.baseDirectory workspace mode .stop file.patches fs

/-- Preview every patch of a patch file. -/
def check (file : PatchFile) (fs : FileSystem) (workspace : Path) :
    List PatchResult × FileSystem :=
  runAll file.baseDirectory workspace .preview .proceed file.patches fs

/-- What there is to be told of checking a patch file. -/
def checkEvents (file : PatchFile) (fs : FileSystem) (workspace : Path) : List Event :=
  eventsOfAll file.baseDirectory workspace .preview .proceed file.patches fs

end PatchFile

end Graft
