import Graft.Command

/-!
# What a request reads

The paths that a request may read, as far as the patch files that are known tell. Whoever copies
files into a file system for a request copies these, until no new ones turn up.

* `Request.reads`: the paths, in the order in which they are read first.
-/

namespace Graft

/-- The paths that a patch reads: the file to edit, and the file with its block. -/
def Patch.reads (patch : Patch) (base : Option Path) (workspace : Path) : List Path :=
  (patch.insert.path.map (Patch.blockPath base)).toList ++ [patch.target workspace]

namespace Request

/-- The paths that the patch files of a request read, the patch files included. -/
def patchFileReads (fs : FileSystem) (config : Path) (workspace? : Option Path) : List Path :=
  workspace?.toList ++ config ::
    match Command.workspacePath fs workspace? with
    | .error _ => []
    | .ok workspace =>
      (Command.patchFiles fs config).flatMap fun path =>
        path ::
          match PatchFile.load fs path with
          | .error _ => []
          | .ok file => file.patches.flatMap fun patch => patch.reads file.baseDirectory workspace

/-- The paths that a request reads. -/
def reads (fs : FileSystem) : Request → List Path
  | .insert file _ (.file path) .. => [path, file]
  | .insert file _ (.text _) .. => [file]
  | .apply config workspace? .. | .check config workspace? => patchFileReads fs config workspace?

end Request

end Graft
