import Graft.Proofs.PatchFile.Runs

/-!
# Runs one after another

A run goes through its patches in order and ends at the first that fails, which changes nothing.

* `PatchFile.runAll_append_of_isOk`: a run of more patches goes on where the run before ended.
* `PatchFile.runAll_cases`: a run goes through to the end, or it is the run of the patches before
  one that fails, and that failure.
* `PatchFile.apply_in_sequence`: the run of two lists of patches, and what any run looks like.
-/

namespace Graft

/-- A patch that fails changes nothing. -/
theorem Patch.files_of_run_error {patch : Patch} {fs after : FileSystem} {base : Option Path}
    {workspace : Path} {mode : Mode} {e : PatchFailure}
    (h : patch.run fs base workspace mode = (.error e, after)) : after = fs := by
  cases mode with
  | preview =>
    have hfs := patch.run_preview fs base workspace
    rwa [h] at hfs
  | apply =>
    rcases patch.run_apply_cases fs base workspace with
      ⟨e', hrun⟩ | ⟨line, hrun⟩ | ⟨location, text, edit, s, hinserts⟩
    · rw [h] at hrun
      exact congrArg Prod.snd hrun
    · rw [h] at hrun
      cases hrun
    · -- an insertion is no failure
      have hrun := hinserts.run_eq
      rw [h] at hrun
      cases hrun

namespace PatchFile

variable {base : Option Path} {workspace : Path} {mode : Mode} {patch : Patch}
  {first second rest : List Patch} {fs after : FileSystem}

/-- A run ends at a patch that fails. -/
theorem runAll_cons_of_error {e : PatchFailure}
    (h : patch.run fs base workspace mode = (.error e, after)) :
    runAll base workspace mode .stop (patch :: rest) fs = ([(patch.id, .error e)], fs) := by
  rw [runAll, h, Patch.files_of_run_error h]

/-- A run goes on where the run of the patches before ended, if none of those failed. -/
theorem runAll_append_of_isOk
    (h : ∀ result ∈ (runAll base workspace mode .stop first fs).1, result.2.isOk) :
    runAll base workspace mode .stop (first ++ second) fs =
      let before := runAll base workspace mode .stop first fs
      let rest := runAll base workspace mode .stop second before.2
      (before.1 ++ rest.1, rest.2) := by
  induction first generalizing fs with
  | nil => rfl
  | cons patch first ih =>
    rcases runAll_cons_cases patch first fs with
      ⟨e, after, hrun, hall⟩ | ⟨outcome, after, hrun, hall⟩
    · rw [hall] at h
      cases h _ List.mem_cons_self
    · rw [hall, List.forall_mem_cons] at h
      rw [List.cons_append, runAll_cons_of_ok hrun, ih h.2, hall]
      rfl

/-- A run goes through all its patches and none fails, or it is the run of the patches before one
that fails, followed by that failure, whatever patches come after. -/
theorem runAll_cases (base : Option Path) (workspace : Path) (mode : Mode) (patches : List Patch)
    (fs : FileSystem) :
    (∃ results after, runAll base workspace mode .stop patches fs = (results, after) ∧
      (∀ result ∈ results, result.2.isOk) ∧ results.map Prod.fst = patches.map Patch.id) ∨
    ∃ front patch rest e results after, patches = front ++ patch :: rest ∧
      runAll base workspace mode .stop front fs = (results, after) ∧
      (∀ result ∈ results, result.2.isOk) ∧ results.map Prod.fst = front.map Patch.id ∧
      ∀ others, runAll base workspace mode .stop (front ++ patch :: others) fs =
        (results ++ [(patch.id, .error e)], after) := by
  induction patches generalizing fs with
  | nil => exact .inl ⟨[], fs, rfl, by simp, rfl⟩
  | cons patch rest ih =>
    cases hrun : patch.run fs base workspace mode with
    | mk result after =>
      cases result with
      | error e =>
        -- nothing comes before the failure
        exact .inr ⟨[], patch, rest, e, [], fs, rfl, rfl, by simp, rfl,
          fun others => runAll_cons_of_error hrun⟩
      | ok outcome =>
        simp only [runAll_cons_of_ok hrun]
        rcases ih after with ⟨results, final, hall, hok, hids⟩ |
          ⟨front, failing, others, e, results, final, rfl, hall, hok, hids, hend⟩
        · rw [hall]
          exact .inl ⟨_, _, rfl, List.forall_mem_cons.2 ⟨rfl, hok⟩,
            by rw [List.map_cons, hids, List.map_cons]⟩
        · refine .inr ⟨patch :: front, failing, others, e, _, final, rfl,
            by rw [runAll_cons_of_ok hrun, hall], List.forall_mem_cons.2 ⟨rfl, hok⟩,
            by rw [List.map_cons, hids, List.map_cons], fun others => ?_⟩
          rw [List.cons_append, runAll_cons_of_ok hrun, hend, List.cons_append]

/-- What comes after a patch that failed is not attempted. -/
theorem runAll_append_of_failure
    (h : ∃ result ∈ (runAll base workspace mode .stop first fs).1, ¬result.2.isOk) :
    runAll base workspace mode .stop (first ++ second) fs =
      runAll base workspace mode .stop first fs := by
  rcases runAll_cases base workspace mode first fs with
    ⟨results, after, hall, hok, -⟩ | ⟨front, patch, rest, e, results, after, rfl, -, -, -, hend⟩
  · obtain ⟨result, hresult, hfails⟩ := h
    rw [hall] at hresult
    exact absurd (hok result hresult) hfails
  · rw [List.append_assoc, List.cons_append, hend, hend]

/-- A patch file with other patches. -/
def withPatches (file : PatchFile) (patches : List Patch) : PatchFile :=
  { file with patches := patches }

/-- A run of two lists of patches is the run of the first if a patch of that fails, and otherwise
the run of the first and then that of the second on the files that the first left. So the results
of a run name its first patches in order, all but the last of them are successes, no patch is left
out unless the last of them is a failure, and after a failure the files are as the patches before
the one that failed left them. -/
theorem apply_in_sequence (file : PatchFile) (fs : FileSystem) (workspace : Path) (mode : Mode) :
    (∀ first second,
      let before := (file.withPatches first).apply fs workspace mode
      let both := (file.withPatches (first ++ second)).apply fs workspace mode
      let rest := (file.withPatches second).apply before.2 workspace mode
      ((∃ result ∈ before.1, ¬result.2.isOk) → both = before) ∧
        ((∀ result ∈ before.1, result.2.isOk) → both = (before.1 ++ rest.1, rest.2))) ∧
    let applied := file.apply fs workspace mode
    applied.1.map Prod.fst = (file.patches.take applied.1.length).map Patch.id ∧
      (∀ result ∈ applied.1.dropLast, result.2.isOk) ∧
      (applied.1.length < file.patches.length →
        ∃ result, applied.1.getLast? = some result ∧ ¬result.2.isOk) ∧
      ∀ result, applied.1.getLast? = some result → ¬result.2.isOk →
        applied.2 = ((file.withPatches (file.patches.take (applied.1.length - 1))).apply fs
          workspace mode).2 := by
  refine ⟨fun first second => ⟨runAll_append_of_failure, runAll_append_of_isOk⟩, ?_⟩
  simp only [apply, withPatches]
  rcases runAll_cases file.baseDirectory workspace mode file.patches fs with
    ⟨results, after, hall, hok, hids⟩ |
    ⟨front, patch, rest, e, results, after, hpatches, hfront, hok, hids, hend⟩
  · -- no patch fails, so that every patch has its result
    have hlength : results.length = file.patches.length := by
      simpa using congrArg List.length hids
    rw [hall]
    refine ⟨by rw [hlength, List.take_length, hids],
      fun result hresult => hok result (List.dropLast_subset _ hresult),
      fun hlt => absurd hlt (by simp [hlength]),
      fun result hlast hfails => absurd (hok result (List.mem_of_getLast? hlast)) hfails⟩
  · have hlength : results.length = front.length := by
      simpa using congrArg List.length hids
    rw [hpatches, hend]
    simp only [List.length_append, List.length_singleton, List.dropLast_concat,
      List.getLast?_concat, Nat.add_sub_cancel, hlength, List.take_left, hfront]
    refine ⟨?_, hok, fun _ => ⟨_, rfl, by simp [Except.isOk, Except.toBool]⟩,
      fun result _ _ => trivial⟩
    rw [List.map_append, hids, List.take_length_add_append]
    simp

/-- The second of three patches fails: it ends the run, and the file keeps what the first put in. -/
theorem apply_in_sequence_second_fails :
    let patch (id : String) (anchor : Text) : Patch :=
      { id := id, file := "f", anchor := [{ equals := some anchor }],
        insert := { text := some id.toList } }
    let file : PatchFile := { patches := [patch "p" ['a'], patch "q" ['c'], patch "r" ['a']] }
    let fs : FileSystem := ⟨[(["f"], .file (Text.bytes ['a', '\n']) 0o644)], []⟩
    let before := (file.withPatches (file.patches.take 2)).apply fs "" .apply
    (∃ result ∈ before.1, ¬result.2.isOk) ∧ file.apply fs "" .apply = before ∧
      before.1.map Prod.fst = ["p", "q"] ∧
      before.2 = ((file.withPatches (file.patches.take 1)).apply fs "" .apply).2 ∧
      before.2.readText "f" = .ok ['a', '\n', 'p', '\n'] := by
  intro patch file fs before
  have hfails : ∃ result ∈ before.1, ¬result.2.isOk := by decide +kernel
  obtain ⟨happend, -, -, -, hafter⟩ := apply_in_sequence file fs "" .apply
  have hboth : file.apply fs "" .apply = before := (happend (file.patches.take 2) _).1 hfails
  have hlength : before.1.length = 2 := by decide +kernel
  rw [hboth, hlength] at hafter
  obtain ⟨last, hlast, hfailed⟩ : ∃ last ∈ before.1.getLast?, ¬last.2.isOk := by decide +kernel
  exact ⟨hfails, hboth, by decide +kernel, hafter last hlast hfailed, by decide +kernel⟩

end PatchFile

end Graft
