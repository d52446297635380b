import Graft.Proofs.PatchFile.Step

/-!
# Runs of patches

Patches run one after another, each on the files as the patches before it left them.

* `PatchFile.runAll_cons_cases`: what the first patch of a run does to the rest.
* `PatchFile.filesAt`: the files that the patch at a position of a run is applied to.
* `PatchFile.exists_of_getElem?_runAll`: what a run has at a position is what the patch there comes
  to on those files.
* `PatchFile.runAll_preview_proceed`: what previews of all patches come to.
-/

namespace Graft.PatchFile

variable {base : Option Path} {workspace : Path} {mode : Mode} {patch : Patch}
  {patches rest : List Patch} {fs after : FileSystem} {result : PatchResult}

/-- A run ends at its first patch, which fails, or goes on with the others. -/
theorem runAll_cons_cases (patch : Patch) (rest : List Patch) (fs : FileSystem) :
    (∃ e after, patch.run fs base workspace mode = (.error e, after) ∧
      runAll base workspace mode .stop (patch :: rest) fs = ([(patch.id, .error e)], after)) ∨
    ∃ outcome after, patch.run fs base workspace mode = (.ok outcome, after) ∧
      runAll base workspace mode .stop (patch :: rest) fs =
        ((patch.id, .ok outcome) :: (runAll base workspace mode .stop rest after).1,
          (runAll base workspace mode .stop rest after).2) := by
  cases hrun : patch.run fs base workspace mode with
  | mk result after =>
    cases result with
    | error e => exact .inl ⟨e, after, rfl, by simp only [runAll, hrun]⟩
    | ok outcome => exact .inr ⟨outcome, after, rfl, by simp only [runAll, hrun]⟩

/-- The same for a patch that is known to succeed. -/
theorem runAll_cons_of_ok {outcome : Outcome}
    (h : patch.run fs base workspace mode = (.ok outcome, after)) :
    runAll base workspace mode .stop (patch :: rest) fs =
      ((patch.id, .ok outcome) :: (runAll base workspace mode .stop rest after).1,
        (runAll base workspace mode .stop rest after).2) := by
  simp only [runAll, h]

/-- Runs lead no path elsewhere. -/
theorem sameLayout_runAll (patches : List Patch) (fs : FileSystem) :
    fs.SameLayout (runAll base workspace .apply .stop patches fs).2 := by
  induction patches generalizing fs with
  | nil => exact .refl fs
  | cons patch rest ih =>
    have hstep := patch.sameLayout_run fs base workspace
    rcases runAll_cons_cases patch rest fs with
      ⟨e, after, hrun, hall⟩ | ⟨outcome, after, hrun, hall⟩
    · rw [hall]
      rwa [hrun] at hstep
    · rw [hrun] at hstep
      rw [hall]
      exact hstep.trans (ih after)

/-- What a run has at a position is what the patch there comes to, on the files as the patches
before it left them. -/
theorem exists_of_getElem?_runAll {i : Nat}
    (h : (runAll base workspace mode .stop patches fs).1[i]? = some result) :
    ∃ patch, patches[i]? = some patch ∧
      result = (patch.id, (patch.run (runAll base workspace mode .stop (patches.take i) fs).2
        base workspace mode).1) ∧
      (runAll base workspace mode .stop (patches.take (i + 1)) fs).2 =
        (patch.run (runAll base workspace mode .stop (patches.take i) fs).2
          base workspace mode).2 := by
  -- by induction on the patches, as the state is handed down the list
  induction patches generalizing i fs with
  | nil => cases h
  | cons patch rest ih =>
    rcases runAll_cons_cases patch rest fs with
      ⟨e, after, hrun, hall⟩ | ⟨outcome, after, hrun, hall⟩
    · rw [hall] at h
      cases i with
      | zero =>
        obtain rfl : (patch.id, .error e) = result := Option.some.inj h
        refine ⟨patch, rfl, ?_, ?_⟩
        · simp [runAll, hrun]
        · simp [runAll, hrun]
      | succ i =>
        -- nothing is attempted after a failure
        cases h
    · rw [hall] at h
      cases i with
      | zero =>
        obtain rfl : (patch.id, .ok outcome) = result := Option.some.inj h
        refine ⟨patch, rfl, ?_, ?_⟩
        · simp [runAll, hrun]
        · simp [runAll, hrun]
      | succ i =>
        obtain ⟨later, hlater, hresult, hafter⟩ := ih h
        refine ⟨later, by rw [List.getElem?_cons_succ, hlater], ?_, ?_⟩
        · rw [List.take_succ_cons, runAll_cons_of_ok hrun]
          exact hresult
        · rw [List.take_succ_cons, List.take_succ_cons, runAll_cons_of_ok hrun,
            runAll_cons_of_ok hrun]
          exact hafter

/-- The files that the patch at a position of a run is applied to. -/
def filesAt (file : PatchFile) (fs : FileSystem) (workspace : Path) (i : Nat) : FileSystem :=
  (runAll file.baseDirectory workspace .apply .stop (file.patches.take i) fs).2

section FilesAt

variable {file : PatchFile} {i : Nat}

theorem sameLayout_filesAt (file : PatchFile) (fs : FileSystem) (workspace : Path) (i : Nat) :
    fs.SameLayout (file.filesAt fs workspace i) :=
  sameLayout_runAll _ fs

theorem exists_of_getElem?_apply
    (h : (file.apply fs workspace .apply).1[i]? = some result) :
    ∃ patch, file.patches[i]? = some patch ∧
      result = (patch.id,
        (patch.run (file.filesAt fs workspace i) file.baseDirectory workspace .apply).1) ∧
      file.filesAt fs workspace (i + 1) =
        (patch.run (file.filesAt fs workspace i) file.baseDirectory workspace .apply).2 :=
  exists_of_getElem?_runAll h

end FilesAt

/-! ## Previews -/

/-- Previews of all patches are judged on the same files. -/
theorem runAll_preview_proceed (patches : List Patch) (fs : FileSystem) :
    runAll base workspace .preview .proceed patches fs =
      (patches.map fun patch => (patch.id, (patch.run fs base workspace .preview).1), fs) := by
  induction patches with
  | nil => rfl
  | cons patch rest ih =>
    have hfs := patch.run_preview fs base workspace
    cases hrun : patch.run fs base workspace .preview with
    | mk result after =>
      rw [hrun] at hfs
      obtain rfl : after = fs := hfs
      simp only [runAll, hrun, ih, List.map_cons]

end Graft.PatchFile
