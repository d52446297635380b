import Graft.Command.Arguments
import Graft.Command.Report

/-!
# Commands

What the program does when it is called: its output, its exit status, and the file system
afterwards.

* `Command.run`: the whole program as a function of the file system and the arguments.
-/

namespace Graft

/-- What is left when the program has ended. -/
structure Completion where
  /-- The exit status. -/
  status : Nat
  /-- What was printed. -/
  output : Output
  /-- The file system afterwards. -/
  files : FileSystem
  deriving DecidableEq

/-- How the patches of a run came out. -/
structure Tally where
  /-- How many blocks went in, or would go in. -/
  inserted : Nat := 0
  /-- How many blocks were there already. -/
  alreadyApplied : Nat := 0
  /-- How many patches failed. -/
  failed : Nat := 0
  deriving DecidableEq, Repr

/-- A tally with one more result. -/
def Tally.add (tally : Tally) : Except PatchFailure Outcome → Tally
  | .ok (.inserted ..) => { tally with inserted := tally.inserted + 1 }
  | .ok (.alreadyApplied ..) => { tally with alreadyApplied := tally.alreadyApplied + 1 }
  | .error _ => { tally with failed := tally.failed + 1 }

namespace Command

/-- The name and version of the program. -/
def versionText : String := "anchor-patcher 0.1.0"

/-- How the program is called. -/
def usageText : String :=
  "Insert code blocks at textual anchors in source files\n\n"
    ++ "Usage: anchor-patcher [-v] insert --file FILE --when OFFSET:KIND[:TEXT]... "
    ++ "(--text TEXT | --block-file PATH) [--before] [--force] [-n] [-d]\n"
    ++ "       anchor-patcher [-v] apply CONFIG [-w WORKSPACE] [-n] [-d]\n"
    ++ "       anchor-patcher [-v] check CONFIG [-w WORKSPACE]"

/-- The end of a program that could not do its work. -/
def fail (fs : FileSystem) (printed : Output) (message : String) (cause : Option String) :
    Completion :=
  ⟨1, printed ++ Report.error message cause, fs⟩

/-- Log lines, if they are wanted; the events are told only then. -/
@[macro_inline]
def log (verbose : Bool) (events : List Event) : Output :=
  if verbose then Report.events events else {}

/-- Insert a block into one file. -/
def insert (colored verbose : Bool) (fs : FileSystem) (file : Path) (edit : Edit) (mode : Mode)
    (diff : Bool) : Completion :=
  let logged := log verbose (edit.events fs file mode)
  match edit.run fs file mode with
  | (.ok outcome, after) => ⟨0, logged ++ Report.outcome colored diff "" outcome, after⟩
  | (.error e, after) => ⟨1, logged ++ Report.failure colored "" e, after⟩

/-- The directory that target files are read from, as an absolute path. -/
def workspacePath (fs : FileSystem) : Option Path → Except (Path × FileError) Path
  | some path =>
    match fs.canonicalize path with
    | .ok path => .ok path
    | .error e => .error (path, e)
  | none => .ok fs.cwd.path

/-- The patch files that an argument names: itself, or the patch files that stand in it, by name. -/
def patchFiles (fs : FileSystem) (config : Path) : List Path :=
  match fs.directory? config with
  | some location =>
    let names := (fs.fileNames location).filter fun name => Path.extension? name = some "toml"
    (names.mergeSort fun a b => decide (a ≤ b)).map config.join
  | none => [config]

/-- What a command on patch files has come to. -/
structure Progress where
  /-- What was printed. -/
  output : Output
  /-- How the patches came out. -/
  tally : Tally
  /-- The file system. -/
  files : FileSystem
  deriving DecidableEq

/-- What is said about the result of an applied patch. -/
def applied (colored diff : Bool) : PatchResult → Output
  | (id, .ok outcome) => Report.outcome colored diff (id ++ ": ") outcome
  | (id, .error e) =>
    Report.patchFailure colored (id ++ ": ") e
      ++ Output.errorLine
        (Style.red.paint colored "Stopping: remaining patches were not attempted")

/-- Apply patch files one after another, up to the first patch that fails. A file that cannot be
loaded ends the command. -/
def applyFiles (colored verbose : Bool) (workspace : Path) (mode : Mode) (diff : Bool) :
    List Path → Progress → Except LoadError Unit × Progress
  | [], progress => (.ok (), progress)
  | path :: rest, ⟨output, tally, fs⟩ =>
    let output := output ++ Output.line ("Loading patches from " ++ path ++ "...")
    match PatchFile.load fs path with
    | .error e => (.error e, ⟨output, tally, fs⟩)
    | .ok file =>
      let (results, after) := file.apply fs workspace mode
      let output := output ++ log verbose (file.applyEvents fs workspace mode)
        ++ Output.concat (results.map (applied colored diff))
      let tally := (results.map Prod.snd).foldl Tally.add tally
      if results.any fun (_, result) => !result.isOk then (.ok (), ⟨output, tally, after⟩)
      else
        applyFiles colored verbose workspace mode diff rest
          ⟨output ++ Output.line "", tally, after⟩

/-- Apply patch files, from the given progress on. -/
def apply (colored verbose : Bool) (workspace : Path) (mode : Mode) (diff : Bool)
    (files : List Path) (fs : FileSystem) : Completion :=
  let banner := "[DRY RUN - no files will be modified]"
  let opening := Output.line ("Workspace: " ++ workspace)
    ++ (if mode = .preview then Output.line (Style.cyan.paint colored banner) else {})
    ++ Output.line ""
  match applyFiles colored verbose workspace mode diff files ⟨opening, {}, fs⟩ with
  | (.error e, progress) => fail progress.files progress.output e.message (some e.cause)
  | (.ok _, ⟨output, tally, fs⟩) =>
    let label := if mode = .preview then "would insert" else "inserted"
    let summary := Output.line "" ++ Output.line (Style.bold.paint colored "Summary:")
      ++ Report.count colored .green tally.inserted label
      ++ Report.count colored .yellow tally.alreadyApplied "already applied"
      ++ Report.count colored .red tally.failed "failed"
    ⟨if tally.failed = 0 then 0 else 1, output ++ summary, fs⟩

/-- What is said about the result of a checked patch. -/
def checked (colored : Bool) : PatchResult → Output
  | (id, .ok (.inserted file line inserted matchCount _ _ _)) =>
    let note := s!"anchor matched {matchCount} positions; the first is used"
    Output.line (Style.cyan.paint colored "○" ++ " " ++ id ++ ": would insert "
        ++ s!"{inserted} lines at line {line} of " ++ file)
      ++ if 1 < matchCount then Output.line ("  " ++ Style.yellow.paint colored note) else {}
  | (id, .ok (.alreadyApplied file line)) =>
    Output.line (Style.green.paint colored "✓" ++ " " ++ id ++ ": already applied to " ++ file
      ++ s!" (line {line})")
  | (id, .error e) => Report.patchFailure colored (id ++ ": ") e

/-- Check patch files one after another. A file that cannot be loaded ends the command. -/
def checkFiles (colored verbose : Bool) (workspace : Path) :
    List Path → Progress → Except LoadError Unit × Progress
  | [], progress => (.ok (), progress)
  | path :: rest, ⟨output, tally, fs⟩ =>
    match PatchFile.load fs path with
    | .error e => (.error e, ⟨output, tally, fs⟩)
    | .ok file =>
      let (results, after) := file.check fs workspace
      let output := output ++ log verbose (file.checkEvents fs workspace)
        ++ Output.concat (results.map (checked colored))
      let tally := (results.map Prod.snd).foldl Tally.add tally
      checkFiles colored verbose workspace rest ⟨output, tally, after⟩

/-- Check patch files. -/
def check (colored verbose : Bool) (workspace : Path) (files : List Path) (fs : FileSystem) :
    Completion :=
  let opening := Output.line (Style.bold.paint colored "Patch Status Report")
    ++ Output.line ("Workspace: " ++ workspace) ++ Output.line ""
  match checkFiles colored verbose workspace files ⟨opening, {}, fs⟩ with
  | (.error e, progress) => fail progress.files progress.output e.message (some e.cause)
  | (.ok _, ⟨output, tally, fs⟩) =>
    let summary := Output.line "" ++ Output.line (Style.bold.paint colored "Summary:")
      ++ Report.count colored .cyan tally.inserted "pending"
      ++ Report.count colored .green tally.alreadyApplied "already applied"
      ++ Report.count colored .red tally.failed "cannot apply"
    ⟨if tally.failed = 0 then 0 else 1, output ++ summary, fs⟩

/-- Do something with a workspace and the patch files that an argument names. -/
def withPatchFiles (fs : FileSystem) (workspace? : Option Path) (config : Path)
    (act : Path → List Path → Completion) : Completion :=
  match workspacePath fs workspace? with
  | .error (path, e) =>
    fail fs {} ("workspace " ++ path ++ " does not exist") (some e.message)
  | .ok workspace =>
    match patchFiles fs config with
    | [] => fail fs {} ("No .toml patch files found in " ++ config) none
    | files => act workspace files

/-- What a request comes to. -/
def perform (colored verbose : Bool) (fs : FileSystem) : Request → Completion
  | .insert file conditions block placement skipIfPresent mode diff =>
    let text : Except (Path × FileError) Text := match block with
      | .text text => .ok text
      | .file path => (fs.readText path).mapError (path, ·)
    match text with
    | .error (path, e) => fail fs {} ("cannot read block file " ++ path) (some e.message)
    | .ok text =>
      insert colored verbose fs file ⟨⟨conditions⟩, .ofText text, placement, skipIfPresent⟩ mode
        diff
  | .apply config workspace? mode diff =>
    withPatchFiles fs workspace? config fun workspace files =>
      apply colored verbose workspace mode diff files fs
  | .check config workspace? =>
    withPatchFiles fs workspace? config fun workspace files =>
      check colored verbose workspace files fs

/-- What the program does when it is called with these arguments. Arguments that ask for nothing
sensible end it with status 2. -/
def run (colored : Bool) (fs : FileSystem) (arguments : List String) : Completion :=
  match Invocation.ofArguments arguments with
  | none => ⟨2, Output.errorLine usageText, fs⟩
  | some .version => ⟨0, Output.line versionText, fs⟩
  | some .help => ⟨0, Output.line usageText, fs⟩
  | some (.request request verbose) => perform colored verbose fs request

end Command

end Graft
