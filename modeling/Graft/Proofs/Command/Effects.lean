import Graft.Command
import Graft.Proofs.Edit.Keeping
import Graft.Proofs.PatchFile.Step
import Mathlib.Logic.Relation

/-!
# What commands do to files

Whatever is asked of the program or of patch files, files change by runs of edits and in no other
way.

* `FileSystem.Reaches`: runs of edits, one after another, lead from one state of the files to
  another.
* `PatchFile.reaches_runAll`, `Command.reaches_perform`, `Command.reaches_run`: runs of patches and
  commands are such runs of edits.
* `Call.keeps_all`: calls keep everything that there was, whatever they are and come to.
-/

namespace Graft

namespace FileSystem

variable {fs after later : FileSystem} {mode : Mode}

/-- Runs of edits, one after another, lead from one state of the files to another. -/
def Reaches (mode : Mode) : FileSystem → FileSystem → Prop :=
  Relation.ReflTransGen fun fs after =>
    ∃ (edit : Edit) (path : Path), after = (edit.run fs path mode).2

namespace Reaches

theorem refl (fs : FileSystem) : fs.Reaches mode fs :=
  Relation.ReflTransGen.refl

theorem trans (h : fs.Reaches mode after) (h' : after.Reaches mode later) :
    fs.Reaches mode later :=
  Relation.ReflTransGen.trans h h'

theorem run (edit : Edit) (fs : FileSystem) (path : Path) :
    fs.Reaches mode (edit.run fs path mode).2 :=
  Relation.ReflTransGen.single ⟨edit, path, rfl⟩

/-- Runs of edits keep everything that there was. -/
theorem keeps (h : fs.Reaches mode after) : fs.Keeps after := by
  induction h with
  | refl => exact .refl fs
  | tail _ hstep ih =>
    obtain ⟨edit, path, rfl⟩ := hstep
    exact ih.trans (edit.keeps_run _ path mode)

end Reaches

end FileSystem

/-- The mode in which a request runs edits. -/
def Request.mode : Request → Mode
  | .insert _ _ _ _ _ mode _ | .apply _ _ mode _ => mode
  | .check _ _ => .preview

variable {base : Option Path} {workspace : Path} {mode : Mode} {colored verbose diff : Bool}

/-- A patch changes files by running its edit. -/
theorem Patch.reaches_run (patch : Patch) (fs : FileSystem) :
    fs.Reaches mode (patch.run fs base workspace mode).2 := by
  cases hedit : patch.edit fs base with
  | error e =>
    simp only [Patch.run, hedit]
    exact .refl fs
  | ok edit =>
    rw [Patch.run_of_edit hedit]
    exact .run edit fs _

/-- Patches change files by running their edits. -/
theorem PatchFile.reaches_runAll (onFailure : OnFailure) (patches : List Patch) (fs : FileSystem) :
    fs.Reaches mode (runAll base workspace mode onFailure patches fs).2 := by
  induction patches generalizing fs with
  | nil => exact .refl fs
  | cons patch rest ih =>
    have hstep : fs.Reaches mode (patch.run fs base workspace mode).2 := patch.reaches_run fs
    cases hrun : patch.run fs base workspace mode with
    | mk result after =>
      rw [hrun] at hstep
      simp only [runAll, hrun]
      split
      next => exact hstep
      next => exact hstep.trans (ih after)

namespace Command

variable {files : List Path} {progress after : Progress} {result : Except LoadError Unit}

/-- Patch files are applied by running edits. -/
theorem reaches_applyFiles
    (h : applyFiles colored verbose workspace mode diff files progress = (result, after)) :
    progress.files.Reaches mode after.files := by
  induction files generalizing progress with
  | nil =>
    cases h
    exact .refl _
  | cons path rest ih =>
    simp only [applyFiles] at h
    split at h
    next =>
      cases h
      exact .refl _
    next file _ =>
      have hstep : progress.files.Reaches mode (file.apply progress.files workspace mode).2 :=
        PatchFile.reaches_runAll .stop file.patches progress.files
      -- a failed patch ends the command, but the patches before it have run
      split at h
      next =>
        cases h
        exact hstep
      next => exact hstep.trans (ih h)

/-- Patch files are checked by previews of edits. -/
theorem reaches_checkFiles
    (h : checkFiles colored verbose workspace files progress = (result, after)) :
    progress.files.Reaches .preview after.files := by
  induction files generalizing progress with
  | nil =>
    cases h
    exact .refl _
  | cons path rest ih =>
    simp only [checkFiles] at h
    split at h
    next =>
      cases h
      exact .refl _
    next file _ =>
      have hstep : progress.files.Reaches .preview (file.check progress.files workspace).2 :=
        PatchFile.reaches_runAll .proceed file.patches progress.files
      exact hstep.trans (ih h)

variable {fs : FileSystem}

/-- A block is inserted into a file by running an edit. -/
theorem reaches_insert (file : Path) (edit : Edit) :
    fs.Reaches mode (insert colored verbose fs file edit mode diff).files := by
  have hstep : fs.Reaches mode (edit.run fs file mode).2 := .run edit fs file
  unfold insert
  simp only
  split
  next hrun => rwa [hrun] at hstep
  next hrun => rwa [hrun] at hstep

theorem reaches_apply :
    fs.Reaches mode (apply colored verbose workspace mode diff files fs).files := by
  unfold apply
  simp only
  split
  next h => exact reaches_applyFiles h
  next h => exact reaches_applyFiles h

theorem reaches_check :
    fs.Reaches .preview (check colored verbose workspace files fs).files := by
  unfold check
  simp only
  split
  next h => exact reaches_checkFiles h
  next h => exact reaches_checkFiles h

/-- Where there is no workspace or no patch file, nothing changes. -/
theorem reaches_withPatchFiles {workspace? : Option Path} {config : Path}
    {act : Path → List Path → Completion}
    (h : ∀ workspace files, fs.Reaches mode (act workspace files).files) :
    fs.Reaches mode (withPatchFiles fs workspace? config act).files := by
  unfold withPatchFiles
  split
  next => exact .refl fs
  next =>
    split
    next => exact .refl fs
    next => exact h _ _

/-- A request is met by running edits in its mode. -/
theorem reaches_perform (request : Request) :
    fs.Reaches request.mode (perform colored verbose fs request).files := by
  cases request with
  | insert file conditions block placement skipIfPresent mode diff =>
    unfold perform
    simp only
    split
    next => exact .refl fs
    next => exact reaches_insert file _
  | apply config workspace? mode diff =>
    exact reaches_withPatchFiles fun workspace files => reaches_apply
  | check config workspace? =>
    exact reaches_withPatchFiles fun workspace files => reaches_check

/-- The program changes files by running edits, all in one mode. -/
theorem reaches_run (arguments : List String) :
    ∃ mode, fs.Reaches mode (run colored fs arguments).files := by
  unfold run
  split
  next => exact ⟨.preview, .refl fs⟩
  next => exact ⟨.preview, .refl fs⟩
  next => exact ⟨.preview, .refl fs⟩
  next request verbose _ => exact ⟨request.mode, reaches_perform request⟩

end Command

/-! ## Calls -/

/-- Something that is done to files. -/
inductive Operation
  /-- An edit is run on a file. -/
  | run (edit : Edit) (path : Path) (mode : Mode)
  /-- A patch file is applied, or that is previewed. -/
  | apply (file : PatchFile) (workspace : Path) (mode : Mode)
  /-- Every patch of a patch file is previewed. -/
  | check (file : PatchFile) (workspace : Path)
  /-- The program is called with arguments. -/
  | command (colored : Bool) (arguments : List String)

/-- The files after an operation. -/
def Operation.files (fs : FileSystem) : Operation → FileSystem
  | run edit path mode => (edit.run fs path mode).2
  | apply file workspace mode => (file.apply fs workspace mode).2
  | check file workspace => (file.check fs workspace).2
  | command colored arguments => (Command.run colored fs arguments).files

/-- Operations change files by running edits. -/
theorem Operation.reaches_files (operation : Operation) (fs : FileSystem) :
    ∃ mode, fs.Reaches mode (operation.files fs) := by
  cases operation with
  | run edit path mode => exact ⟨mode, .run edit fs path⟩
  | apply file workspace mode => exact ⟨mode, PatchFile.reaches_runAll .stop file.patches fs⟩
  | check file workspace => exact ⟨.preview, PatchFile.reaches_runAll .proceed file.patches fs⟩
  | command colored arguments => exact Command.reaches_run arguments

/-- An operation and the directory in which it is called. -/
structure Call where
  /-- The directory that relative paths are read from. -/
  cwd : Location
  /-- What is done. -/
  operation : Operation

namespace Call

/-- The files after a call. -/
def files (fs : FileSystem) (call : Call) : FileSystem :=
  call.operation.files { fs with cwd := call.cwd }

theorem keeps (call : Call) (fs : FileSystem) : fs.Keeps (call.files fs) := by
  obtain ⟨mode, hreaches⟩ := call.operation.reaches_files { fs with cwd := call.cwd }
  -- what stands where does not depend on the directory of the call
  have hmoved : fs.Keeps { fs with cwd := call.cwd } :=
    ⟨(FileSystem.Keeps.refl fs).lookup_file, fun _ _ => rfl⟩
  exact hmoved.trans hreaches.keeps

/-- Nothing is ever lost by calls, whatever they are and whatever they come to: the same
directories, links and files stand where they stood, with the same modes, and nothing else does;
every file that is no text has the same bytes, and all text that a file had is in the text that it
has, in order. -/
theorem keeps_all (calls : List Call) (fs : FileSystem) : fs.Keeps (calls.foldl files fs) := by
  induction calls generalizing fs with
  | nil => exact .refl fs
  | cons call rest ih => exact (call.keeps fs).trans (ih (call.files fs))

end Call

end Graft
