import Graft.Command.Reads

/-!
# The program

The outermost layer: it copies the files that a request reads into a file system, lets the command
work on that, and puts what has changed back in place.
-/

namespace Graft.Program

/-- The file system with what really stands on the way that a path leads. Where the way ends, the
copy ends too. -/
def copy (fs : FileSystem) (path : Path) : IO FileSystem := do
  let mut fs := fs
  let mut here : Location := if path.isAbsolute then [] else fs.cwd
  for name in path.steps do
    if name = ".." then
      here := here.dropLast
    else if name ≠ "." then
      let place := here ++ [name]
      match ← (IO.FS.realPath place.path).toBaseIO with
      | .ok real =>
        let location : Location := Path.steps real.toString
        fs := fs.insertDirectories location.dropLast
        if location ≠ place then
          fs := fs.insert place (.link location.path)
        if ← real.isDir then
          fs := fs.insertDirectories location
        else
          fs := fs.insert location (.file (← IO.FS.readBinFile real) 0o644)
        here := location
      | .error _ =>
        if let .error (.noFileOrDirectory ..) ← (IO.FS.readBinFile place.path).toBaseIO then
          return fs
        -- A link that cannot be followed to an end is as good as one that leads to itself.
        return fs.insert place (.link place.path)
  return fs

/-- The file system with what stands in a directory, if a path names one. -/
def copyEntries (fs : FileSystem) (path : Path) : IO FileSystem := do
  match fs.directory? path with
  | none => return fs
  | some location =>
    let mut fs := fs
    for entry in ← (← IO.FS.realPath location.path).readDir do
      fs ← copy fs (path.join entry.fileName)
    return fs

/-- The paths in which the patch files of a request are looked for. -/
def directories : Request → List Path
  | .insert .. => []
  | .apply config .. | .check config _ => [config]

/-- Perform a request on the files that it reads. Patches may change what later patch files read, so
the copy is extended and the request performed anew until nothing is missing. -/
partial def settle (colored verbose : Bool) (request : Request) (fs : FileSystem)
    (known : List Path) : IO (FileSystem × Completion) := do
  let completion := Command.perform colored verbose fs request
  let wanted := (request.reads fs ++ request.reads completion.files).eraseDups
  match wanted.filter fun path => !known.contains path with
  | [] => return (fs, completion)
  | missing =>
    let mut fs := fs
    for path in missing do
      fs ← copy fs path
    for path in directories request do
      fs ← copyEntries fs path
    settle colored verbose request fs (known ++ missing)

/-- Put changed files back in place, unless one of them is no longer what was copied. -/
def putBack (before after : FileSystem) : IO Unit := do
  let changed := after.nodes.filter fun (location, node) => before.lookup location ≠ some node
  for (location, _) in changed do
    if let .ok content := before.contentAt location then
      if content.data ≠ (← IO.FS.readBinFile location.path).data then
        throw (IO.userError (Failure.changedMeanwhile location.path).message)
  for (location, node) in changed do
    if let .file content _ := node then
      IO.FS.writeBinFile location.path content

/-- Whether output is painted: on a terminal, unless the environment asks for something else. -/
def isColored : IO Bool := do
  if let some force ← IO.getEnv "CLICOLOR_FORCE" then
    if force ≠ "0" then return true
  if (← IO.getEnv "NO_COLOR").isSome then return false
  (← IO.getStdout).isTty

/-- Print what a command printed, and end with its status. -/
def finish (completion : Completion) : IO UInt32 := do
  IO.print completion.output.out
  IO.eprint completion.output.err
  return completion.status.toUInt32

/-- Do what the arguments ask for. -/
def perform (arguments : List String) : IO UInt32 := do
  let colored ← isColored
  let cwd := Path.steps (← IO.currentDir).toString
  let empty : FileSystem := { nodes := [], cwd := cwd }
  let fs := empty.insertDirectories cwd
  match Invocation.ofArguments arguments with
  | some (.request request verbose) =>
    let (before, completion) ← settle colored verbose request fs []
    putBack before completion.files
    finish completion
  | _ => finish (Command.run colored fs arguments)

end Graft.Program

/-- The program: its arguments ask for a command, whose exit status it ends with. -/
def main (arguments : List String) : IO UInt32 :=
  Graft.Program.perform arguments
