import Graft.Proofs.Command.Effects
import Graft.Proofs.Command.Visits
import Graft.Proofs.FileSystem.Listing

/-!
# Applying the patch files of a directory

One call of the program for a directory does what a call for each of its patch files does, although
it looks for the patch files only once and loads each of them after the ones before have been
applied.

* `FileSystem.Reaches.directory?_eq`, `Command.workspacePath_eq`: what was looked up stays the same
  while files are written.
* `Command.exists_patchFiles_eq`: the patch files of a directory, by name.
* `Command.apply_directory`: applying a directory is applying its patch files, one call after
  another, up to the first that fails.
-/

namespace Graft

variable {fs after : FileSystem} {mode : Mode} {path : Path}

/-- A run leaves the files alone, or one of them gets other bytes. -/
theorem Edit.files_run_cases (edit : Edit) (fs : FileSystem) (path : Path) (mode : Mode) :
    (edit.run fs path mode).2 = fs ∨
      ∃ location content, (edit.run fs path mode).2 = fs.setContent location content := by
  cases mode with
  | preview => exact .inl (run_preview edit fs path)
  | apply =>
    rcases run_cases edit fs path with
      ⟨e, -, hrun⟩ | ⟨line, hrun⟩ | ⟨text, insertion, -, hread, hplan⟩
    · exact .inl (by rw [hrun])
    · exact .inl (by rw [hrun])
    · rw [run_apply_of_insert hread hplan]
      cases fs.reopen path with
      | error e => exact .inl rfl
      | ok location => exact .inr ⟨location, _, rfl⟩

namespace FileSystem

/-- Runs of edits lead no path elsewhere, wherever they are made. -/
theorem Reaches.sameLayout_and_cwd (h : fs.Reaches mode after) :
    fs.SameLayout after ∧ after.cwd = fs.cwd := by
  induction h with
  | refl => exact ⟨.refl fs, rfl⟩
  | tail _ hstep ih =>
    obtain ⟨edit, path, rfl⟩ := hstep
    rcases edit.files_run_cases _ path mode with hsame | ⟨location, content, hset⟩
    · rwa [hsame]
    · rw [hset]
      exact ⟨ih.1.trans (.setContent _ location content), ih.2⟩

/-- Runs of edits make no directory, and nothing else of one. -/
theorem Reaches.directory?_eq (h : fs.Reaches mode after) (path : Path) :
    after.directory? path = fs.directory? path := by
  have hlookup : ∀ location, after.lookup location = some .directory ↔
      fs.lookup location = some .directory := by
    intro location
    by_cases hfile : ∃ bytes mode, fs.lookup location = some (.file bytes mode)
    · obtain ⟨bytes, mode, hfile⟩ := hfile
      obtain ⟨bytes', hfile', -⟩ := h.keeps.lookup_file location bytes mode hfile
      simp [hfile, hfile']
    · simp only [not_exists] at hfile
      rw [h.keeps.lookup_other location hfile]
  unfold directory?
  rw [h.sameLayout_and_cwd.1.locate_eq]
  simp only [hlookup]

end FileSystem

namespace Command

variable {colored verbose diff : Bool} {workspace config directory : Path}
  {workspace? : Option Path} {location : Location}

/-- The workspace stays the same directory. -/
theorem workspacePath_eq (h : fs.Reaches mode after) (workspace? : Option Path) :
    workspacePath after workspace? = workspacePath fs workspace? := by
  cases workspace? with
  | none => rw [workspacePath, workspacePath, h.sameLayout_and_cwd.2]
  | some path =>
    have hcanonical : after.canonicalize path = fs.canonicalize path := by
      rw [FileSystem.canonicalize, FileSystem.canonicalize, h.sameLayout_and_cwd.1]
    rw [workspacePath, workspacePath, hcanonical]

/-- The patch files of a directory are the files that stand in it and have the extension for them,
by name. -/
theorem exists_patchFiles_eq (h : fs.directory? directory = some location) :
    ∃ names : List String, patchFiles fs directory = names.map directory.join ∧
      names.Pairwise (· < ·) ∧
      ∀ name, name ∈ names ↔ Path.extension? name = some "toml" ∧
        ∃ bytes bits, fs.lookup (location ++ [name]) = some (.file bytes bits) := by
  refine ⟨_, by rw [patchFiles, h], ?_, fun name => ?_⟩
  · exact FileSystem.pairwise_lt_mergeSort ((FileSystem.nodup_fileNames fs location).filter _)
  · rw [List.mem_mergeSort, List.mem_filter, FileSystem.mem_fileNames, decide_eq_true_eq, and_comm]

/-- The program called for one patch file after another, up to the first call that fails. -/
def applyEach (colored verbose : Bool) (workspace? : Option Path) (mode : Mode) (diff : Bool) :
    List Path → FileSystem → List Completion
  | [], _ => []
  | path :: rest, fs =>
    let single := perform colored verbose fs (.apply path workspace? mode diff)
    single ::
      if single.status = 0 then
        applyEach colored verbose workspace? mode diff rest single.files
      else []

/-- With a workspace and patch files, a command is put together from those that it gets to. -/
theorem perform_apply_eq_completion (hworkspace : workspacePath fs workspace? = .ok workspace)
    (hfiles : patchFiles fs config ≠ []) :
    perform colored verbose fs (.apply config workspace? mode diff) =
      completion colored verbose workspace mode diff fs
        (visits workspace mode (patchFiles fs config) fs) := by
  simp only [perform, withPatchFiles, hworkspace]
  rw [apply_eq_completion]

/-- A path that names no directory is the path of a patch file. -/
theorem perform_apply_of_path (hworkspace : workspacePath fs workspace? = .ok workspace)
    (hpath : fs.directory? path = none) :
    perform colored verbose fs (.apply path workspace? mode diff) =
      completion colored verbose workspace mode diff fs [⟨path, fs⟩] := by
  have hfiles : patchFiles fs path = [path] := by rw [patchFiles, hpath]
  rw [perform_apply_eq_completion hworkspace (by simp [hfiles]), hfiles]
  simp [visits]

/-- Calls for one patch file after another get to those that one command gets to. -/
theorem applyEach_eq_map (hworkspace : workspacePath fs workspace? = .ok workspace)
    {paths : List Path} (hpaths : ∀ path ∈ paths, fs.directory? path = none) :
    applyEach colored verbose workspace? mode diff paths fs =
      (visits workspace mode paths fs).map fun visit =>
        completion colored verbose workspace mode diff visit.files [visit] := by
  induction paths generalizing fs with
  | nil => rfl
  | cons path rest ih =>
    rw [List.forall_mem_cons] at hpaths
    have hreaches : fs.Reaches mode
        (perform colored verbose fs (.apply path workspace? mode diff)).files :=
      reaches_perform (.apply path workspace? mode diff)
    simp only [applyEach, visits]
    rw [perform_apply_of_path hworkspace hpaths.1] at hreaches ⊢
    -- a call fails exactly if it cannot get its patch file done
    cases hdone : Visit.isDone workspace mode ⟨path, fs⟩ with
    | false => simp [completion, hdone]
    | true =>
      have hfiles : (completion colored verbose workspace mode diff fs [⟨path, fs⟩]).files =
          Visit.after workspace mode ⟨path, fs⟩ := rfl
      rw [hfiles] at hreaches ⊢
      rw [ih (by rwa [workspacePath_eq hreaches]) fun other hother => by
        rw [hreaches.directory?_eq, hpaths.2 other hother]]
      simp [completion, hdone]

/-- Without a workspace or without patch files, a command fails and changes nothing. -/
theorem perform_apply_of_nothing
    (h : (∃ e, workspacePath fs workspace? = .error e) ∨ patchFiles fs config = []) :
    let whole := perform colored verbose fs (.apply config workspace? mode diff)
    whole.files = fs ∧ whole.status = 1 := by
  simp only [perform, withPatchFiles]
  cases hworkspace : workspacePath fs workspace? with
  | error e => exact ⟨rfl, rfl⟩
  | ok workspace =>
    simp only [hworkspace, reduceCtorEq, exists_false, false_or] at h
    rw [h]
    exact ⟨rfl, rfl⟩

/-- Without a workspace or without patch files, no call succeeds and none changes anything. -/
theorem applyEach_of_nothing {paths : List Path}
    (h : (∃ e, workspacePath fs workspace? = .error e) ∨ paths = []) :
    let singles := applyEach colored verbose workspace? mode diff paths fs
    (singles.getLast?.map Completion.files).getD fs = fs ∧
      ¬(paths ≠ [] ∧ ∀ single ∈ singles, single.status = 0) := by
  cases paths with
  | nil => exact ⟨rfl, fun hnil => absurd rfl hnil.1⟩
  | cons path rest =>
    obtain ⟨hfiles, hstatus⟩ :
        (perform colored verbose fs (.apply path workspace? mode diff)).files = fs ∧
          (perform colored verbose fs (.apply path workspace? mode diff)).status = 1 :=
      perform_apply_of_nothing (.inl (h.resolve_right (List.cons_ne_nil path rest)))
    simp [applyEach, hfiles, hstatus]

/-- One call leaves the files as calls for one patch file after another do, and succeeds when there
are patch files and these calls succeed. -/
theorem perform_apply_eq_applyEach (colored verbose diff : Bool) (mode : Mode)
    (workspace? : Option Path)
    (hpaths : ∀ path ∈ patchFiles fs config, fs.directory? path = none) :
    let whole := perform colored verbose fs (.apply config workspace? mode diff)
    let singles := applyEach colored verbose workspace? mode diff (patchFiles fs config) fs
    whole.files = (singles.getLast?.map Completion.files).getD fs ∧
      (whole.status = 0 ↔
        patchFiles fs config ≠ [] ∧ ∀ single ∈ singles, single.status = 0) := by
  intro whole singles
  by_cases hnothing : (∃ e, workspacePath fs workspace? = .error e) ∨ patchFiles fs config = []
  · have hwhole : whole.files = fs ∧ whole.status = 1 := perform_apply_of_nothing hnothing
    have hsingles : (singles.getLast?.map Completion.files).getD fs = fs ∧
        ¬(patchFiles fs config ≠ [] ∧ ∀ single ∈ singles, single.status = 0) :=
      applyEach_of_nothing hnothing
    exact ⟨hwhole.1.trans hsingles.1.symm, iff_of_false (by simp [hwhole.2]) hsingles.2⟩
  · rw [not_or] at hnothing
    cases hworkspace : workspacePath fs workspace? with
    | error e => exact absurd ⟨e, hworkspace⟩ hnothing.1
    | ok workspace =>
      have hwhole : whole = completion colored verbose workspace mode diff fs
          (visits workspace mode (patchFiles fs config) fs) :=
        perform_apply_eq_completion hworkspace hnothing.2
      have hsingles : singles = (visits workspace mode (patchFiles fs config) fs).map fun visit =>
          completion colored verbose workspace mode diff visit.files [visit] :=
        applyEach_eq_map hworkspace hpaths
      constructor
      · rw [hwhole, hsingles, List.getLast?_map, Option.map_map]
        rfl
      · rw [hwhole, hsingles]
        simp [hnothing.2, status_completion_eq_zero_iff]

/-- Applying a directory is applying the patch files in it by name, one call after another, up to
the first call that fails: the files are the same afterwards, and it succeeds exactly if there are
patch files and all calls succeed. What is printed is put together from what is said about each
patch file, and every patch that is attempted is counted once, at most one of them as failed. The
counts are printed at the end, unless a patch file cannot be loaded. -/
theorem apply_directory (colored verbose diff : Bool) (mode : Mode) (workspace? : Option Path)
    (h : fs.directory? directory = some location) :
    ∃ names : List String,
      (names.Pairwise (· < ·) ∧
        ∀ name, name ∈ names ↔ Path.extension? name = some "toml" ∧
          ∃ bytes bits, fs.lookup (location ++ [name]) = some (.file bytes bits)) ∧
      let whole := perform colored verbose fs (.apply directory workspace? mode diff)
      let singles :=
        applyEach colored verbose workspace? mode diff (names.map directory.join) fs
      whole.files = (singles.getLast?.map Completion.files).getD fs ∧
      (whole.status = 0 ↔ names ≠ [] ∧ ∀ single ∈ singles, single.status = 0) ∧
      ∀ workspace, workspacePath fs workspace? = .ok workspace → names ≠ [] →
        let visits := visits workspace mode (names.map directory.join) fs
        let tally := Tally.ofResults (attempted workspace mode visits)
        whole = completion colored verbose workspace mode diff fs visits ∧
        singles = (visits.map fun visit =>
          completion colored verbose workspace mode diff visit.files [visit]) ∧
        visits.map Visit.path <+: names.map directory.join ∧
        (whole.status = 0 → visits.map Visit.path = names.map directory.join) ∧
        tally.inserted + tally.alreadyApplied + tally.failed =
          (attempted workspace mode visits).length ∧
        tally.failed ≤ 1 ∧
        whole.output = opening colored workspace mode ++
          Output.concat (visits.map (Visit.said colored verbose workspace mode diff)) ++
          match visits.findSome? Visit.loadError? with
          | some e => Report.error e.message (some e.cause)
          | none =>
            { out := "\n" ++ Style.bold.paint colored "Summary:" ++ "\n" ++
                "  " ++ Style.green.paint colored (toString tally.inserted) ++ " " ++
                  (if mode = .preview then "would insert" else "inserted") ++ "\n" ++
                "  " ++ Style.yellow.paint colored (toString tally.alreadyApplied) ++
                  " already applied\n" ++
                "  " ++ Style.red.paint colored (toString tally.failed) ++ " failed\n" } := by
  obtain ⟨names, hfiles, hsorted, hmem⟩ := exists_patchFiles_eq h
  have hpaths : ∀ path ∈ names.map directory.join, fs.directory? path = none := by
    simp only [List.mem_map]
    rintro _ ⟨name, hname, rfl⟩
    obtain ⟨bytes, bits, hfile⟩ := ((hmem name).1 hname).2
    exact FileSystem.directory?_join h hfile
  obtain ⟨hsame, hzero⟩ :=
    perform_apply_eq_applyEach colored verbose diff mode workspace? (hfiles ▸ hpaths)
  rw [hfiles] at hsame hzero
  refine ⟨names, ⟨hsorted, hmem⟩, hsame, by simpa using hzero, fun workspace hworkspace hne => ?_⟩
  have hwhole : perform colored verbose fs (.apply directory workspace? mode diff) =
      completion colored verbose workspace mode diff fs
        (visits workspace mode (names.map directory.join) fs) := by
    rw [← hfiles]
    exact perform_apply_eq_completion hworkspace (by simpa [hfiles] using hne)
  refine ⟨hwhole, applyEach_eq_map hworkspace hpaths, map_path_visits_prefix _ fs,
    fun hdone => map_path_visits_of_done (status_completion_eq_zero_iff.1 (hwhole ▸ hdone)),
    Tally.total_ofResults _, failed_tally_le_one workspace mode _ fs, ?_⟩
  rw [hwhole, ← summary_eq]
  rfl

/-- Of two patch files in a directory, the second by name is empty: a call for it fails, and so does
one for the directory. A file without the extension is left out. -/
theorem apply_directory_with_empty_file :
    let patch : Text :=
      ("[[patches]]\nid = \"p\"\nfile = \"f\"\n[[patches.anchor]]\nequals = \"A\"\n" ++
        "[patches.insert]\ntext = \"B\"\n").toList
    let fs : FileSystem :=
      ⟨[(["d"], .directory), (["d", "b.toml"], .file .empty 0o644),
        (["d", "a.toml"], .file patch.bytes 0o644), (["d", "a.txt"], .file patch.bytes 0o644),
        (["f"], .file (Text.bytes ['A', '\n']) 0o644)], []⟩
    fs.directory? "d" = some ["d"] ∧ workspacePath fs none = .ok "/" ∧
      ∃ names : List String, "a.toml" ∈ names ∧ "b.toml" ∈ names ∧ "a.txt" ∉ names ∧
        (∃ single ∈ applyEach false false none .apply false (names.map (Path.join "d")) fs,
          single.status ≠ 0) ∧
        (visits "/" .apply (names.map (Path.join "d")) fs).map Visit.path <+:
          names.map (Path.join "d") := by
  intro patch fs
  have hdirectory : fs.directory? "d" = some ["d"] := by decide +kernel
  have hworkspace : workspacePath fs none = .ok "/" := by decide +kernel
  have hfiles : patchFiles fs "d" = ["d/a.toml", "d/b.toml"] := by
    have hnames : ((fs.fileNames ["d"]).filter fun name => Path.extension? name = some "toml") =
        ["b.toml", "a.toml"] := by decide +kernel
    have hsorted : ["b.toml", "a.toml"].mergeSort (fun a b => decide (a ≤ b)) =
        ["a.toml", "b.toml"] := by simp [List.mergeSort]
    rw [patchFiles, hdirectory]
    simp only [hnames, hsorted]
    decide
  have hstatus : (perform false false fs (.apply "d" none .apply false)).status = 1 := by
    rw [perform_apply_eq_completion hworkspace (by simp [hfiles]), hfiles]
    decide +kernel
  obtain ⟨names, ⟨-, hmem⟩, -, hzero, hvisits⟩ :=
    apply_directory false false false .apply none hdirectory
  have ha : "a.toml" ∈ names := (hmem _).2 ⟨by decide, patch.bytes, 0o644, rfl⟩
  have hb : "b.toml" ∈ names := (hmem _).2 ⟨by decide, .empty, 0o644, rfl⟩
  have hne : names ≠ [] := List.ne_nil_of_mem ha
  obtain ⟨-, -, hprefix, -⟩ := hvisits "/" hworkspace hne
  refine ⟨hdirectory, hworkspace, names, ha, hb,
    fun htxt => absurd ((hmem _).1 htxt).1 (by decide), ?_, hprefix⟩
  have hfails : ¬(names ≠ [] ∧ ∀ single ∈
      applyEach false false none .apply false (names.map (Path.join "d")) fs,
      single.status = 0) := mt hzero.2 (by simp [hstatus])
  simpa [hne] using hfails

end Command

end Graft
