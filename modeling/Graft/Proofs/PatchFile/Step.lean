import Graft.PatchFile.Apply
import Graft.Proofs.Edit.Run
import Graft.Proofs.FileSystem.Layout

/-!
# What one patch does

A patch reads two files at most, its target and the file that holds its block, and writes the
target or nothing.

* `Patch.edit_eq_ok_iff`: the edit of a patch is made from its pattern and the text of its block.
* `Patch.run_cases`: a patch fails, or finds its block, or puts its block into its target.
* `Patch.run_preview_congr`: what a preview of a patch comes to depends on the files it reads.
-/

namespace Graft

/-- Whether a block went in, or would go in. -/
def Outcome.isInserted : Outcome → Bool
  | inserted .. => true
  | alreadyApplied .. => false

namespace Patch

variable {patch : Patch} {fs after : FileSystem} {base : Option Path} {workspace : Path}
  {location : Location} {pattern : Pattern} {text : Text} {mode : Mode}

/-- The edit of a patch with a pattern and the text of a block. -/
def editOf (patch : Patch) (pattern : Pattern) (text : Text) : Edit where
  pattern := pattern
  block := .ofText text
  placement := patch.placement
  skipIfPresent := patch.skipIfPresent

theorem edit_of_pattern (hpattern : patch.pattern = .ok pattern) :
    patch.edit fs base = (patch.blockText fs base).map (patch.editOf pattern) := by
  rw [edit, hpattern]
  cases patch.blockText fs base <;> rfl

theorem edit_eq_ok_iff {edit : Edit} :
    patch.edit fs base = .ok edit ↔
      ∃ pattern text, patch.pattern = .ok pattern ∧ patch.blockText fs base = .ok text ∧
        edit = patch.editOf pattern text := by
  cases hpattern : patch.pattern with
  | error e => simp [Patch.edit, hpattern]
  | ok pattern =>
    rw [edit_of_pattern hpattern]
    cases patch.blockText fs base with
    | error e => simp [Except.map]
    | ok text => simp [Except.map, eq_comm]

/-- A block is given as a text, or it is the text of a file. -/
theorem blockText_eq_ok_iff :
    patch.blockText fs base = .ok text ↔
      (patch.insert.text = some text ∧ patch.insert.path = none) ∨
        patch.insert.text = none ∧
          ∃ path ∈ patch.insert.path, fs.readText (blockPath base path) = .ok text := by
  unfold blockText
  cases patch.insert.text with
  | some inline => cases patch.insert.path <;> simp
  | none =>
    cases patch.insert.path with
    | none => simp
    | some path => cases hread : fs.readText (blockPath base path) <;> simp [hread]

/-- The target of a patch and the file that holds its block stand at the locations it reads. -/
def Reads (patch : Patch) (fs : FileSystem) (base : Option Path) (workspace : Path)
    (location : Location) : Prop :=
  fs.locate (patch.target workspace) = .ok location ∨
    ∃ path ∈ patch.insert.path, fs.locate (blockPath base path) = .ok location

/-- The text of a block is what it was, if nothing changed where its file stands. -/
theorem blockText_congr (hlayout : fs.SameLayout after)
    (hlookup : ∀ path ∈ patch.insert.path, ∀ location,
      fs.locate (blockPath base path) = .ok location →
        after.lookup location = fs.lookup location) :
    patch.blockText after base = patch.blockText fs base := by
  unfold blockText
  cases patch.insert.text with
  | some text =>
    -- nothing is read
    cases patch.insert.path <;> rfl
  | none =>
    cases hpath : patch.insert.path with
    | none => rfl
    | some path => simp only [FileSystem.readText_congr hlayout (hlookup path hpath)]

theorem edit_congr (hblock : patch.blockText after base = patch.blockText fs base) :
    patch.edit after base = patch.edit fs base := by
  simp only [edit, hblock]

/-! ## Running a patch -/

/-- A patch puts its block into its target: `s` is planned on the text of the file at a location,
and the file gets the text of `s`. -/
structure Inserts (patch : Patch) (fs : FileSystem) (base : Option Path) (workspace : Path)
    (location : Location) (text : Text) (edit : Edit) (s : Insertion) : Prop where
  edit_eq : patch.edit fs base = .ok edit
  readText_eq : fs.readText (patch.target workspace) = .ok text
  locate_eq : fs.locate (patch.target workspace) = .ok location
  plan_eq : edit.plan (.ofText (patch.target workspace) text) = .ok (.insert s)
  run_eq : patch.run fs base workspace .apply =
    (.ok (Edit.outcome (.ofText (patch.target workspace) text) s true),
      fs.setContent location s.text.bytes)

theorem run_of_edit {edit : Edit} (hedit : patch.edit fs base = .ok edit) :
    patch.run fs base workspace mode =
      ((edit.run fs (patch.target workspace) mode).1.mapError .edit,
        (edit.run fs (patch.target workspace) mode).2) := by
  simp only [run, hedit]

/-- What a patch comes to where its target is read, in terms of the plan on the text. -/
theorem run_apply_of_text {edit : Edit} (hedit : patch.edit fs base = .ok edit)
    (htext : fs.readText (patch.target workspace) = .ok text) :
    patch.run fs base workspace .apply =
      match edit.plan (.ofText (patch.target workspace) text) with
      | .error e => (.error (.edit e), fs)
      | .ok (.alreadyPresent line) => (.ok (.alreadyApplied (patch.target workspace) line), fs)
      | .ok (.insert s) =>
        match fs.reopen (patch.target workspace) with
        | .ok location => (.ok (Edit.outcome (.ofText (patch.target workspace) text) s true),
            fs.setContent location s.text.bytes)
        | .error _ =>
          (.error (.edit (.unwritable (patch.target workspace) .nameTooLong)), fs) := by
  have hread := Snapshot.read_eq_ok_iff.2 ⟨text, htext, rfl⟩
  rw [run_of_edit hedit]
  cases hplan : edit.plan (.ofText (patch.target workspace) text) with
  | error e => simp only [Edit.run, hread, hplan, Except.mapError]
  | ok verdict =>
    cases verdict with
    | alreadyPresent line => simp only [Edit.run, hread, hplan, Except.mapError]
    | insert s =>
      rw [Edit.run_apply_of_insert hread hplan]
      cases fs.reopen (patch.target workspace) <;> rfl

/-- What a patch comes to when its preview comes to `previewed`. An insertion that is foretold fails
only where the canonical path of the target is too long to be opened. -/
def foretold (patch : Patch) (fs : FileSystem) (workspace : Path)
    (previewed : Except PatchFailure Outcome) : Except PatchFailure Outcome :=
  match previewed with
  | .error e => .error e
  | .ok outcome =>
    if outcome.isInserted ∧ ¬(fs.reopen (patch.target workspace)).isOk then
      .error (.edit (.unwritable (patch.target workspace) .nameTooLong))
    else .ok outcome.asWritten

/-- A patch fails and changes nothing, or finds its block in its target and changes nothing,
whatever the mode, or it is about to insert and all that can go wrong is the writing. -/
theorem run_cases (patch : Patch) (fs : FileSystem) (base : Option Path) (workspace : Path) :
    (∃ e, ∀ mode, patch.run fs base workspace mode = (.error e, fs)) ∨
    (∃ line, ∀ mode, patch.run fs base workspace mode =
      (.ok (.alreadyApplied (patch.target workspace) line), fs)) ∨
    ∃ edit text s, patch.edit fs base = .ok edit ∧
      fs.readText (patch.target workspace) = .ok text ∧
      edit.plan (.ofText (patch.target workspace) text) = .ok (.insert s) ∧
      patch.run fs base workspace .preview =
        (.ok (Edit.outcome (.ofText (patch.target workspace) text) s false), fs) ∧
      patch.run fs base workspace .apply =
        match fs.reopen (patch.target workspace) with
        | .ok location => (.ok (Edit.outcome (.ofText (patch.target workspace) text) s true),
            fs.setContent location s.text.bytes)
        | .error _ =>
          (.error (.edit (.unwritable (patch.target workspace) .nameTooLong)), fs) := by
  cases hedit : patch.edit fs base with
  | error e => exact .inl ⟨e, fun mode => by simp [run, hedit]⟩
  | ok edit =>
    simp only [run_of_edit hedit]
    rcases Edit.run_cases edit fs (patch.target workspace) with
      ⟨e, -, hrun⟩ | ⟨line, hrun⟩ | ⟨text, s, htext, hread, hplan⟩
    · exact .inl ⟨.edit e, fun mode => by rw [hrun]; rfl⟩
    · exact .inr (.inl ⟨line, fun mode => by rw [hrun]; rfl⟩)
    · refine .inr (.inr ⟨edit, text, s, rfl, htext, hplan, ?_, ?_⟩)
      · rw [Edit.run_preview_of_insert hread hplan]
        rfl
      · rw [Edit.run_apply_of_insert hread hplan]
        cases fs.reopen (patch.target workspace) <;> rfl

/-- A patch that is applied fails, or finds its block, or puts it in. -/
theorem run_apply_cases (patch : Patch) (fs : FileSystem) (base : Option Path) (workspace : Path) :
    (∃ e, patch.run fs base workspace .apply = (.error e, fs)) ∨
    (∃ line, patch.run fs base workspace .apply =
      (.ok (.alreadyApplied (patch.target workspace) line), fs)) ∨
    ∃ location text edit s, patch.Inserts fs base workspace location text edit s := by
  rcases run_cases patch fs base workspace with
    ⟨e, hrun⟩ | ⟨line, hrun⟩ | ⟨edit, text, s, hedit, htext, hplan, -, hrun⟩
  · exact .inl ⟨e, hrun .apply⟩
  · exact .inr (.inl ⟨line, hrun .apply⟩)
  · -- what is opened by the canonical path is what was read
    cases hopen : fs.reopen (patch.target workspace) with
    | error e => exact .inl ⟨_, by rw [hrun, hopen]⟩
    | ok location =>
      exact .inr (.inr ⟨location, text, edit, s, hedit, htext,
        FileSystem.locate_of_reopen htext hopen, hplan, by rw [hrun, hopen]⟩)

/-- A patch comes to what its preview on the same files foretells. -/
theorem run_apply_eq_foretold (patch : Patch) (fs : FileSystem) (base : Option Path)
    (workspace : Path) :
    (patch.run fs base workspace .apply).1 =
      patch.foretold fs workspace (patch.run fs base workspace .preview).1 := by
  rcases run_cases patch fs base workspace with
    ⟨e, hrun⟩ | ⟨line, hrun⟩ | ⟨edit, text, s, -, -, -, hpreview, happly⟩
  · rw [hrun, hrun, foretold]
  · rw [hrun, hrun, foretold, if_neg (by simp [Outcome.isInserted]), Outcome.asWritten]
    simp
  · rw [happly, hpreview, foretold]
    cases fs.reopen (patch.target workspace) with
    | error e => rw [if_pos ⟨rfl, by simp [Except.isOk, Except.toBool]⟩]
    | ok location => rw [if_neg (by simp [Except.isOk, Except.toBool])]; rfl

/-- What a preview of a patch comes to depends on the files that the patch reads and on nothing
else. -/
theorem run_preview_congr (hlayout : fs.SameLayout after)
    (hlookup : ∀ location, patch.Reads fs base workspace location →
      after.lookup location = fs.lookup location) :
    (patch.run after base workspace .preview).1 = (patch.run fs base workspace .preview).1 := by
  -- the block and the text are the same, so the plan is
  have hedit : patch.edit after base = patch.edit fs base :=
    edit_congr (blockText_congr hlayout fun path hpath location hlocate =>
      hlookup location (.inr ⟨path, hpath, hlocate⟩))
  have htext : after.readText (patch.target workspace) = fs.readText (patch.target workspace) :=
    FileSystem.readText_congr hlayout fun location hlocate => hlookup location (.inl hlocate)
  have hread : Snapshot.read after (patch.target workspace) =
      Snapshot.read fs (patch.target workspace) := by
    simp only [Snapshot.read, htext]
  cases hmade : patch.edit fs base with
  | error e => simp only [run, hedit, hmade]
  | ok edit =>
    rw [run_of_edit (hedit.trans hmade), run_of_edit hmade]
    simp only [Edit.run, hread]
    cases Snapshot.read fs (patch.target workspace) with
    | error e => rfl
    | ok snapshot =>
      cases hplan : edit.plan snapshot with
      | error e => simp only [hplan]
      | ok verdict => cases verdict <;> simp only [hplan]

/-- Files that are opened stay so. -/
theorem foretold_congr (hlayout : fs.SameLayout after) :
    patch.foretold after workspace = patch.foretold fs workspace := by
  funext previewed
  unfold foretold
  rw [hlayout.reopen_eq]

/-- A preview leaves the file system alone. -/
theorem run_preview (patch : Patch) (fs : FileSystem) (base : Option Path) (workspace : Path) :
    (patch.run fs base workspace .preview).2 = fs := by
  rcases run_cases patch fs base workspace with
    ⟨e, hrun⟩ | ⟨line, hrun⟩ | ⟨edit, text, s, -, -, -, hrun, -⟩
  · rw [hrun]
  · rw [hrun]
  · rw [hrun]

/-- Patches lead no path elsewhere. -/
theorem sameLayout_run (patch : Patch) (fs : FileSystem) (base : Option Path) (workspace : Path) :
    fs.SameLayout (patch.run fs base workspace .apply).2 := by
  rcases run_apply_cases patch fs base workspace with
    ⟨e, hrun⟩ | ⟨line, hrun⟩ | ⟨location, text, edit, s, h⟩
  · rw [hrun]
    exact .refl fs
  · rw [hrun]
    exact .refl fs
  · rw [h.run_eq]
    exact .setContent fs location _

end Patch

end Graft
