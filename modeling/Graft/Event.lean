import Graft.FileSystem.Path

/-!
# Events

What happens on the way of an edit, for those who want to follow it.
-/

namespace Graft

/-- Whether an edit is made or only previewed. -/
inductive Mode
  /-- The file is written. -/
  | apply
  /-- Nothing is written. -/
  | preview
  deriving DecidableEq, Repr

/-- A step of an edit. -/
inductive Event
  /-- The file was read. -/
  | read (file : Path) (lines : Nat)
  /-- The block was found in the file. -/
  | present (file : Path) (line : Nat)
  /-- The file was searched for the pattern. -/
  | searched (file : Path) (matchCount : Nat)
  /-- The block was put between the lines. -/
  | inserted (anchor index count : Nat)
  /-- The file was written. -/
  | written (file : Path) (bytes : Nat)
  /-- A patch of a patch file is being applied. -/
  | applying (patch : String) (file : Path) (mode : Mode)
  /-- The patches after a failed one are left out. -/
  | stopping (patch : String)
  deriving DecidableEq, Repr

/-- The event as a line of a log. -/
def Event.message : Event → String
  | read file lines => s!"DEBUG read target file={file} lines={lines}"
  | present file line => s!"DEBUG block already present file={file} line={line}"
  | searched file matchCount => s!"DEBUG scanned for anchor file={file} matches={matchCount}"
  | inserted anchor index count =>
    s!"DEBUG spliced block anchor={anchor} index={index} inserted={count}"
  | written file bytes => s!"DEBUG wrote target file={file} bytes={bytes}"
  | applying patch file mode =>
    let mode := match mode with
      | .apply => "Apply"
      | .preview => "DryRun"
    s!"DEBUG applying patch patch={patch} file={file} mode={mode}"
  | stopping patch => s!"DEBUG stopping after failed patch patch={patch}"

end Graft
