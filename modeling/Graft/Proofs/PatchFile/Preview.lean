import Graft.Proofs.PatchFile.Runs

/-!
# What previews foretell

Previews of all patches are judged on the same files, and a run changes files in between. What a
preview foretells comes true unless an earlier patch changes a file that the patch reads.

* `PatchFile.Disturbs`: a patch puts its block into a file that a later patch reads.
* `PatchFile.upToFailure`: the results of a run that ends at the first failure.
* `PatchFile.apply_is_foretold`: what applying comes to is what previews foretell, where no patch
  disturbs another.
-/

namespace Graft.PatchFile

variable {base : Option Path} {workspace : Path} {mode : Mode} {patches : List Patch}
  {fs : FileSystem} {file : PatchFile} {result : PatchResult} {location : Location} {i : Nat}

/-- In a run, the patch at position `j` puts its block into a file that the patch at position `i`
reads. -/
def Disturbs (file : PatchFile) (fs : FileSystem) (workspace : Path) (j i : Nat) : Prop :=
  ∃ earlier later outcome location,
    file.patches[j]? = some earlier ∧ file.patches[i]? = some later ∧
      (file.apply fs workspace .apply).1[j]? = some (earlier.id, .ok outcome) ∧
      outcome.isInserted ∧ fs.locate (earlier.target workspace) = .ok location ∧
      later.Reads fs file.baseDirectory workspace location

/-- A file into which no earlier patch puts its block is as it was. -/
theorem lookup_filesAt (hi : i ≤ (file.apply fs workspace .apply).1.length)
    (h : ∀ j < i, ∀ earlier outcome, file.patches[j]? = some earlier →
      (file.apply fs workspace .apply).1[j]? = some (earlier.id, .ok outcome) →
      outcome.isInserted → fs.locate (earlier.target workspace) ≠ .ok location) :
    (file.filesAt fs workspace i).lookup location = fs.lookup location := by
  -- by induction on the position, one step of the run at a time
  induction i with
  | zero => rfl
  | succ i ih =>
    have hbefore := ih (by omega) fun j hj => h j (by omega)
    have hattempted := List.getElem?_eq_getElem (Nat.lt_of_succ_le hi)
    obtain ⟨patch, hpatch, hresult, hafter⟩ := exists_of_getElem?_apply hattempted
    rw [hafter, ← hbefore]
    rcases patch.run_apply_cases (file.filesAt fs workspace i) file.baseDirectory workspace with
      ⟨e, hrun⟩ | ⟨line, hrun⟩ | ⟨changed, text, edit, s, hinserts⟩
    · rw [hrun]
    · rw [hrun]
    · -- the step changes one file, which stands elsewhere
      rw [hinserts.run_eq]
      refine FileSystem.lookup_setContent_of_ne ?_
      rintro rfl
      have hlocate := (sameLayout_filesAt file fs workspace i).locate_eq (patch.target workspace)
      rw [hinserts.locate_eq] at hlocate
      rw [hresult, hinserts.run_eq] at hattempted
      exact h i (Nat.lt_succ_self i) patch _ hpatch hattempted rfl hlocate.symm

/-- The files that a patch reads are as they were, if no earlier patch disturbs it; so is what its
preview comes to. -/
theorem run_preview_filesAt {patch : Patch} (hi : i ≤ (file.apply fs workspace .apply).1.length)
    (hpatch : file.patches[i]? = some patch)
    (h : ∀ j < i, ¬file.Disturbs fs workspace j i) :
    (patch.run (file.filesAt fs workspace i) file.baseDirectory workspace .preview).1 =
      (patch.run fs file.baseDirectory workspace .preview).1 := by
  refine Patch.run_preview_congr (sameLayout_filesAt file fs workspace i) fun location hreads => ?_
  refine lookup_filesAt hi fun j hj earlier outcome hearlier hresult hinserted hlocate => ?_
  exact h j hj ⟨earlier, patch, outcome, location, hearlier, hpatch, hresult, hinserted, hlocate,
    hreads⟩

/-- Where the target can be opened by its canonical path, a preview foretells what it says. -/
theorem foretold_run_preview {patch : Patch}
    (h : ∀ location, fs.locate (patch.target workspace) = .ok location →
      (fs.reopen (patch.target workspace)).isOk) :
    patch.foretold fs workspace (patch.run fs base workspace .preview).1 =
      (patch.run fs base workspace .preview).1.map Outcome.asWritten := by
  rcases Patch.run_cases patch fs base workspace with
    ⟨e, hrun⟩ | ⟨line, hrun⟩ | ⟨edit, text, s, -, htext, -, hrun, -⟩
  · rw [hrun]
    rfl
  · rw [hrun, Patch.foretold, if_neg (by simp [Outcome.isInserted])]
    rfl
  · -- the text was read, so the path leads somewhere
    obtain ⟨location, hlocate, -⟩ := FileSystem.readText_eq_ok_iff_contentAt.1 htext
    rw [hrun, Patch.foretold, if_neg fun hnot => hnot.2 (h location hlocate)]
    rfl

/-! ## Whole runs -/

/-- The results of a run that ends at the first failure. -/
def upToFailure : List PatchResult → List PatchResult
  | [] => []
  | result :: rest => if result.2.isOk then result :: upToFailure rest else [result]

@[simp]
theorem upToFailure_ok (name : String) (outcome : Outcome) (rest : List PatchResult) :
    upToFailure ((name, .ok outcome) :: rest) = (name, .ok outcome) :: upToFailure rest :=
  rfl

@[simp]
theorem upToFailure_error (name : String) (e : PatchFailure) (rest : List PatchResult) :
    upToFailure ((name, .error e) :: rest) = [(name, .error e)] :=
  rfl

theorem upToFailure_map {results : List PatchResult} {f : PatchResult → PatchResult}
    (h : ∀ result, (f result).2.isOk = result.2.isOk) :
    upToFailure (results.map f) = (upToFailure results).map f := by
  induction results with
  | nil => rfl
  | cons result rest ih =>
    rw [List.map_cons, upToFailure, upToFailure, h, ih]
    split <;> rfl

theorem upToFailure_of_isOk {results : List PatchResult} (h : ∀ result ∈ results, result.2.isOk) :
    upToFailure results = results := by
  induction results with
  | nil => rfl
  | cons result rest ih =>
    rw [List.forall_mem_cons] at h
    rw [upToFailure, if_pos h.1, ih h.2]

/-- A preview of a run ends at the first preview that fails. -/
theorem runAll_preview_stop (patches : List Patch) (fs : FileSystem) :
    runAll base workspace .preview .stop patches fs =
      (upToFailure (patches.map fun patch =>
        (patch.id, (patch.run fs base workspace .preview).1)), fs) := by
  induction patches with
  | nil => rfl
  | cons patch rest ih =>
    have hfs := patch.run_preview fs base workspace
    rcases runAll_cons_cases patch rest fs with
      ⟨e, after, hrun, hall⟩ | ⟨outcome, after, hrun, hall⟩
    · rw [hrun] at hfs
      obtain rfl : after = fs := hfs
      rw [hall, List.map_cons, hrun, upToFailure_error]
    · rw [hrun] at hfs
      obtain rfl : after = fs := hfs
      rw [hall, List.map_cons, hrun, upToFailure_ok, ih]

/-- Where the result of each patch that is attempted is known, so are the results of a run. -/
theorem runAll_eq_upToFailure {results : Patch → PatchResult}
    (h : ∀ (i : Nat) patch result, patches[i]? = some patch →
      (runAll base workspace mode .stop patches fs).1[i]? = some result →
        result = results patch) :
    (runAll base workspace mode .stop patches fs).1 = upToFailure (patches.map results) := by
  induction patches generalizing fs with
  | nil => rfl
  | cons patch rest ih =>
    rcases runAll_cons_cases patch rest fs with
      ⟨e, after, hrun, hall⟩ | ⟨outcome, after, hrun, hall⟩
    · rw [hall] at h ⊢
      have hfirst := h 0 patch _ rfl rfl
      rw [List.map_cons, ← hfirst, upToFailure_error]
    · rw [hall] at h ⊢
      have hfirst := h 0 patch _ rfl rfl
      rw [List.map_cons, ← hfirst, upToFailure_ok]
      -- the positions of the others are one further down
      refine congrArg _ (ih fun i later result hlater hresult => ?_)
      exact h (i + 1) later result (by rw [List.getElem?_cons_succ, hlater])
        (by rw [List.getElem?_cons_succ, hresult])

theorem getElem?_apply_eq_foretold {patch : Patch} (hpatch : file.patches[i]? = some patch)
    (hresult : (file.apply fs workspace .apply).1[i]? = some result) :
    result = (patch.id, patch.foretold fs workspace
      (patch.run (file.filesAt fs workspace i) file.baseDirectory workspace .preview).1) := by
  obtain ⟨other, hother, heq, -⟩ := exists_of_getElem?_apply hresult
  obtain rfl : other = patch := Option.some.inj (hother.symm.trans hpatch)
  rw [heq, Patch.run_apply_eq_foretold,
    Patch.foretold_congr (sameLayout_filesAt file fs workspace i)]

theorem getElem?_apply_of_undisturbed {patch : Patch} (hpatch : file.patches[i]? = some patch)
    (hresult : (file.apply fs workspace .apply).1[i]? = some result)
    (h : ∀ j < i, ¬file.Disturbs fs workspace j i) :
    result = (patch.id, patch.foretold fs workspace
      (patch.run fs file.baseDirectory workspace .preview).1) := by
  have hi := (List.getElem?_eq_some_iff.1 hresult).1
  rw [getElem?_apply_eq_foretold hpatch hresult,
    run_preview_filesAt (Nat.le_of_lt hi) hpatch h]

/-- What applying comes to, at each position, is what a preview of the patch foretells on the files
as the patches before it left them; that is what checking says of it, unless one of those patches
disturbs it. Where no patch disturbs a later one and every target can be opened by its canonical
path, applying comes to what its preview comes to, which is what checking says up to the first
failure. -/
theorem apply_is_foretold (file : PatchFile) (fs : FileSystem) (workspace : Path) :
    let check := file.check fs workspace
    let dryRun := file.apply fs workspace .preview
    let applied := (file.apply fs workspace .apply).1
    (check.2 = fs ∧ dryRun = (upToFailure check.1, fs)) ∧
    (∀ i name result, applied[i]? = some (name, result) →
      ∃ patch previewed, file.patches[i]? = some patch ∧ name = patch.id ∧
        check.1[i]? = some (name, previewed) ∧
        result = patch.foretold fs workspace
          (patch.run (file.filesAt fs workspace i) file.baseDirectory workspace .preview).1 ∧
        ((∀ j < i, ¬file.Disturbs fs workspace j i) →
          result = patch.foretold fs workspace previewed)) ∧
    ((∀ j i, j < i → ¬file.Disturbs fs workspace j i) →
      (∀ patch ∈ file.patches, ∀ location, fs.locate (patch.target workspace) = .ok location →
        (fs.reopen (patch.target workspace)).isOk) →
      applied = dryRun.1.map (fun (name, result) => (name, result.map Outcome.asWritten)) ∧
        ((∀ result ∈ check.1, result.2.isOk) → applied.length = file.patches.length ∧
          ∀ result ∈ applied, result.2.isOk)) := by
  intro check dryRun applied
  have hcheck : check = _ := runAll_preview_proceed file.patches fs
  have hdryRun : dryRun = _ := runAll_preview_stop file.patches fs
  refine ⟨⟨by rw [hcheck], by rw [hdryRun, hcheck]⟩, fun i name result hresult => ?_,
    fun hnot hopen => ?_⟩
  · obtain ⟨patch, hpatch, -⟩ := exists_of_getElem?_apply hresult
    obtain ⟨rfl, hforetold⟩ := Prod.mk.inj (getElem?_apply_eq_foretold hpatch hresult)
    refine ⟨patch, (patch.run fs file.baseDirectory workspace .preview).1, hpatch, rfl, ?_,
      hforetold, fun hnot => ?_⟩
    · rw [hcheck, List.getElem?_map, hpatch]
      rfl
    · -- what the patch reads is what checking read
      exact congrArg Prod.snd (getElem?_apply_of_undisturbed hpatch hresult hnot)
  · -- no result is another than foretold, so the run is what is foretold of all patches
    have happlied : applied = upToFailure (file.patches.map fun patch =>
        (patch.id, patch.foretold fs workspace
          (patch.run fs file.baseDirectory workspace .preview).1)) :=
      runAll_eq_upToFailure fun i patch result hpatch hresult =>
        getElem?_apply_of_undisturbed hpatch hresult fun j hj => hnot j i hj
    have hforetold : applied = dryRun.1.map fun (name, result) =>
        (name, result.map Outcome.asWritten) := by
      rw [happlied, hdryRun, ← upToFailure_map, List.map_map]
      · congr 1
        refine List.map_congr_left fun patch hpatch => ?_
        rw [foretold_run_preview (hopen patch hpatch)]
        rfl
      · rintro ⟨name, result⟩
        cases result <;> rfl
    refine ⟨hforetold, fun hok => ?_⟩
    -- without failures the preview goes through to the end
    have hall : dryRun.1 = check.1 := by
      rw [hdryRun, hcheck] at *
      exact upToFailure_of_isOk hok
    rw [hforetold, hall]
    constructor
    · rw [List.length_map, hcheck, List.length_map]
    · intro result hresult
      obtain ⟨previewed, hpreviewed, rfl⟩ := List.mem_map.1 hresult
      have := hok previewed hpreviewed
      obtain ⟨name, outcome⟩ := previewed
      cases outcome <;> simp_all [Except.map, Except.isOk, Except.toBool]

/-- Two patches on two files do not disturb one another. -/
theorem apply_is_foretold_two_files :
    let patch (id : String) (target : Path) : Patch :=
      { id := id, file := target, anchor := [{ equals := some ['a'] }],
        insert := { text := some ['x'] } }
    let file : PatchFile := { patches := [patch "p" "f", patch "q" "g"] }
    let node := Node.file (Text.bytes ['a', '\n']) 0o644
    let fs : FileSystem := ⟨[(["f"], node), (["g"], node)], []⟩
    (∀ j i, j < i → ¬file.Disturbs fs "" j i) ∧
      (∀ patch ∈ file.patches, ∀ location, fs.locate (patch.target "") = .ok location →
        (fs.reopen (patch.target "")).isOk) ∧
      (∀ result ∈ (file.check fs "").1, result.2.isOk) ∧
      (file.apply fs "" .apply).1.length = 2 ∧
      ∀ result ∈ (file.apply fs "" .apply).1, result.2.isOk := by
  intro patch file node fs
  have hnot : ∀ j i, j < i → ¬file.Disturbs fs "" j i := by
    rintro j i hlt ⟨earlier, later, outcome, location, hearlier, hlater, -, -, hlocate, hreads⟩
    have hi : i < 2 := (List.getElem?_eq_some_iff.1 hlater).1
    obtain ⟨rfl, rfl⟩ : j = 0 ∧ i = 1 := by omega
    obtain rfl : patch "p" "f" = earlier := Option.some.inj hearlier
    obtain rfl : patch "q" "g" = later := Option.some.inj hlater
    have hf : fs.locate ((patch "p" "f").target "") = .ok ["f"] := by decide +kernel
    have hg : fs.locate ((patch "q" "g").target "") = .ok ["g"] := by decide +kernel
    obtain rfl : ["f"] = location := Except.ok.inj (hf.symm.trans hlocate)
    rcases hreads with htarget | ⟨path, hpath, -⟩
    · rw [hg] at htarget
      exact absurd htarget (by decide)
    · cases hpath
  have hopen : ∀ patch ∈ file.patches, (fs.reopen (patch.target "")).isOk := by decide +kernel
  have hok : ∀ result ∈ (file.check fs "").1, result.2.isOk := by decide +kernel
  obtain ⟨-, -, hwhole⟩ := apply_is_foretold file fs ""
  have hall := (hwhole hnot fun patch hpatch _ _ => hopen patch hpatch).2 hok
  exact ⟨hnot, fun patch hpatch _ _ => hopen patch hpatch, hok, hall.1, hall.2⟩

-- a block that goes in between two lines takes an anchor on both of them away from a later patch
example :
    let first : Patch :=
      { id := "p", file := "f", anchor := [{ equals := some ['a'] }],
        insert := { text := some ['x'] } }
    let second : Patch :=
      { id := "q", file := "f", insert := { text := some ['y'] },
        anchor := [{ equals := some ['a'] }, { offset := 1, equals := some ['b'] }] }
    let file : PatchFile := { patches := [first, second] }
    let fs : FileSystem := ⟨[(["f"], .file (Text.bytes ['a', '\n', 'b', '\n']) 0o644)], []⟩
    (file.check fs "").1.map (·.2.isOk) = [true, true] ∧
      (file.apply fs "" .apply).1.map (·.2.isOk) = [true, false] := by
  decide +kernel

end Graft.PatchFile
