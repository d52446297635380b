import Graft.Proofs.PatchFile.Preview
import Graft.Proofs.PatchFile.Sequence
import Mathlib.Data.List.Pairwise

/-!
# Patches of different files

Patches that edit different files, none of which a block comes from, come to the same in any order.

* `Patch.run_eq_change`: where the files that a patch reads are as they were, the patch comes to
  what it came to and changes the same file in the same way.
* `PatchFile.IsIndependent`: no patch edits a file that another edits or that a block comes from.
* `PatchFile.apply_of_isIndependent`: such patches come to what each comes to by itself.
* `PatchFile.apply_perm`: they come to the same in any order.
-/

namespace Graft

namespace Patch

variable {patch other : Patch} {fs current : FileSystem} {base : Option Path} {workspace : Path}

/-- What a patch does to files on which it comes to what it comes to on `fs`: the file that it edits
there gets the text afterwards. -/
def change (patch : Patch) (fs : FileSystem) (base : Option Path) (workspace : Path)
    (current : FileSystem) : FileSystem :=
  match (patch.run fs base workspace .apply).1, fs.locate (patch.target workspace) with
  | .ok (.inserted _ _ _ _ _ _ after), .ok location => current.setContent location after.bytes
  | _, _ => current

/-- Where the files that a patch reads are as they were, the patch comes to what it came to and
changes the same file in the same way. -/
theorem run_eq_change (hlayout : fs.SameLayout current)
    (hlookup : ∀ location, patch.Reads fs base workspace location →
      current.lookup location = fs.lookup location) :
    patch.run current base workspace .apply =
      ((patch.run fs base workspace .apply).1, patch.change fs base workspace current) := by
  have hresult : (patch.run current base workspace .apply).1 =
      (patch.run fs base workspace .apply).1 := by
    rw [run_apply_eq_foretold, run_apply_eq_foretold, run_preview_congr hlayout hlookup,
      foretold_congr hlayout]
  rw [change, ← hresult, ← hlayout.locate_eq]
  rcases patch.run_apply_cases current base workspace with
    ⟨e, hrun⟩ | ⟨line, hrun⟩ | ⟨location, text, edit, s, hinserts⟩
  · rw [hrun]
  · rw [hrun]
  · rw [hinserts.run_eq, hinserts.locate_eq]
    rfl

/-- Patches that edit different files change them in either order. -/
theorem change_comm
    (h : fs.locate (patch.target workspace) ≠ fs.locate (other.target workspace)) :
    other.change fs base workspace (patch.change fs base workspace current) =
      patch.change fs base workspace (other.change fs base workspace current) := by
  unfold change
  split
  next hresult hlocate =>
    split
    next hresult' hlocate' =>
      refine FileSystem.setContent_comm ?_ _ _
      rintro rfl
      exact h (hlocate'.trans hlocate.symm)
    next => rfl
  next => rfl

end Patch

namespace PatchFile

variable {base : Option Path} {workspace : Path} {patches patches' : List Patch} {fs : FileSystem}
  {file : PatchFile} {i j : Nat}

/-- No patch edits a file that another patch edits, or that a block comes from. -/
structure IsIndependent (patches : List Patch) (fs : FileSystem) (base : Option Path)
    (workspace : Path) : Prop where
  targets : patches.Pairwise fun patch other =>
    fs.locate (patch.target workspace) ≠ fs.locate (other.target workspace)
  blocks : ∀ patch ∈ patches, ∀ other ∈ patches, ∀ path ∈ patch.insert.path,
    fs.locate (Patch.blockPath base path) ≠ fs.locate (other.target workspace)

namespace IsIndependent

theorem perm (h : IsIndependent patches fs base workspace) (hperm : patches'.Perm patches) :
    IsIndependent patches' fs base workspace where
  targets := h.targets.perm hperm.symm Ne.symm
  blocks patch hpatch other hother :=
    h.blocks patch (hperm.subset hpatch) other (hperm.subset hother)

theorem locate_target_ne (h : IsIndependent patches fs base workspace) {patch other : Patch}
    (hpatch : patch ∈ patches) (hother : other ∈ patches) (hne : patch ≠ other) :
    fs.locate (patch.target workspace) ≠ fs.locate (other.target workspace) := by
  have : Std.Symm fun patch other : Patch =>
      fs.locate (patch.target workspace) ≠ fs.locate (other.target workspace) :=
    ⟨fun _ _ => Ne.symm⟩
  exact h.targets.forall hpatch hother hne

theorem not_reads (h : IsIndependent file.patches fs file.baseDirectory workspace) (hlt : j < i)
    {earlier later : Patch} (hearlier : file.patches[j]? = some earlier)
    (hlater : file.patches[i]? = some later) {location : Location}
    (hlocate : fs.locate (earlier.target workspace) = .ok location) :
    ¬later.Reads fs file.baseDirectory workspace location := by
  rintro (htarget | ⟨path, hpath, hblock⟩)
  · obtain ⟨hj, rfl⟩ := List.getElem?_eq_some_iff.1 hearlier
    obtain ⟨hi, rfl⟩ := List.getElem?_eq_some_iff.1 hlater
    exact List.pairwise_iff_getElem.1 h.targets j i hj hi hlt (hlocate.trans htarget.symm)
  · exact h.blocks later (List.mem_of_getElem? hlater) earlier (List.mem_of_getElem? hearlier) path
      hpath (hblock.trans hlocate.symm)

theorem not_disturbs (h : IsIndependent file.patches fs file.baseDirectory workspace)
    (hlt : j < i) : ¬file.Disturbs fs workspace j i := by
  rintro ⟨earlier, later, outcome, location, hearlier, hlater, -, -, hlocate, hreads⟩
  exact h.not_reads hlt hearlier hlater hlocate hreads

end IsIndependent

theorem isOk_of_upToFailure {results : List PatchResult}
    (h : ∀ result ∈ upToFailure results, result.2.isOk) : ∀ result ∈ results, result.2.isOk := by
  induction results with
  | nil => simp
  | cons result rest ih =>
    rw [upToFailure] at h
    split at h
    next hok =>
      rw [List.forall_mem_cons] at h
      exact List.forall_mem_cons.2 ⟨hok, ih h.2⟩
    next hfails => exact absurd (h result List.mem_cons_self) hfails

/-- The results of independent patches are those that they have by themselves. -/
theorem apply_eq_upToFailure (h : IsIndependent file.patches fs file.baseDirectory workspace) :
    (file.apply fs workspace .apply).1 = upToFailure (file.patches.map fun patch =>
      (patch.id, (patch.run fs file.baseDirectory workspace .apply).1)) := by
  refine runAll_eq_upToFailure fun i patch result hpatch hresult => ?_
  rw [getElem?_apply_of_undisturbed hpatch hresult fun j hj => h.not_disturbs hj,
    Patch.run_apply_eq_foretold]

/-- The files that a patch of a run is applied to are those that the patches before it have changed,
each by itself. -/
theorem filesAt_eq_foldl (h : IsIndependent file.patches fs file.baseDirectory workspace)
    (hi : i ≤ (file.apply fs workspace .apply).1.length) :
    file.filesAt fs workspace i = (file.patches.take i).foldl
      (fun current patch => patch.change fs file.baseDirectory workspace current) fs := by
  induction i with
  | zero => rfl
  | succ i ih =>
    have hattempted := List.getElem?_eq_getElem (Nat.lt_of_succ_le hi)
    obtain ⟨patch, hpatch, -, hafter⟩ := exists_of_getElem?_apply hattempted
    -- what the patch reads is as it was, as the patches before it edit other files
    have hrun := Patch.run_eq_change (sameLayout_filesAt file fs workspace i)
      fun location hreads => lookup_filesAt (Nat.le_of_succ_le hi)
        fun j hj earlier outcome hearlier _ _ hlocate =>
          h.not_reads hj hearlier hpatch hlocate hreads
    rw [hafter, hrun, ih (Nat.le_of_succ_le hi), List.take_add_one, hpatch, Option.toList_some,
      List.foldl_append]
    rfl

/-- Independent patches that all succeed come to what each comes to by itself, and each changes the
files as it does by itself. -/
theorem apply_of_isIndependent (h : IsIndependent file.patches fs file.baseDirectory workspace)
    (hok : ∀ patch ∈ file.patches, (patch.run fs file.baseDirectory workspace .apply).1.isOk) :
    file.apply fs workspace .apply =
      (file.patches.map fun patch =>
          (patch.id, (patch.run fs file.baseDirectory workspace .apply).1),
        file.patches.foldl
          (fun current patch => patch.change fs file.baseDirectory workspace current) fs) := by
  have hresults := apply_eq_upToFailure h
  rw [upToFailure_of_isOk (by simpa using hok)] at hresults
  have hlength : (file.apply fs workspace .apply).1.length = file.patches.length := by
    rw [hresults, List.length_map]
  have hfiles := filesAt_eq_foldl h (Nat.le_of_eq hlength.symm)
  rw [filesAt, List.take_length] at hfiles
  exact Prod.ext hresults hfiles

/-- Patches that succeed by themselves have outcomes. -/
theorem exists_outcome
    (hok : ∀ patch ∈ patches, (patch.run fs base workspace .apply).1.isOk) :
    ∃ outcome : Patch → Outcome, ∀ patch ∈ patches,
      (patch.run fs base workspace .apply).1 = .ok (outcome patch) := by
  refine ⟨fun patch => match (patch.run fs base workspace .apply).1 with
    | .ok outcome => outcome
    | .error _ => .alreadyApplied "" 0, fun patch hpatch => ?_⟩
  have hsuccess := hok patch hpatch
  cases hrun : (patch.run fs base workspace .apply).1 with
  | ok outcome => simp only [hrun]
  | error e =>
    rw [hrun] at hsuccess
    cases hsuccess

/-- Where all patches of a run succeed, and their targets are different files that no block comes
from, the patches come to the same in any order: each comes to what it comes to by itself, and the
files are the same afterwards. -/
theorem apply_perm (file : PatchFile) (fs : FileSystem) (workspace : Path) (patches : List Patch)
    (hperm : patches.Perm file.patches)
    (hok : ∀ result ∈ (file.apply fs workspace .apply).1, result.2.isOk)
    (htargets : file.patches.Pairwise fun patch other =>
      fs.locate (patch.target workspace) ≠ fs.locate (other.target workspace))
    (hblocks : ∀ patch ∈ file.patches, ∀ other ∈ file.patches, ∀ path ∈ patch.insert.path,
      fs.locate (Patch.blockPath file.baseDirectory path) ≠
        fs.locate (other.target workspace)) :
    let applied := file.apply fs workspace .apply
    let permuted := (file.withPatches patches).apply fs workspace .apply
    ∃ outcome : Patch → Outcome,
      applied.1 = file.patches.map (fun patch => (patch.id, .ok (outcome patch))) ∧
      permuted.1 = patches.map (fun patch => (patch.id, .ok (outcome patch))) ∧
      permuted.2 = applied.2 ∧
      ∀ patch ∈ patches,
        (patch.run fs file.baseDirectory workspace .apply).1 = .ok (outcome patch) := by
  intro applied permuted
  have hindependent : IsIndependent file.patches fs file.baseDirectory workspace :=
    ⟨htargets, hblocks⟩
  have hindependent' : IsIndependent (file.withPatches patches).patches fs
      (file.withPatches patches).baseDirectory workspace := hindependent.perm hperm
  have hsucceeds : ∀ patch ∈ file.patches,
      (patch.run fs file.baseDirectory workspace .apply).1.isOk := by
    rw [apply_eq_upToFailure hindependent] at hok
    simpa using isOk_of_upToFailure hok
  obtain ⟨outcome, houtcome⟩ := exists_outcome hsucceeds
  have hresults : ∀ others ⊆ file.patches,
      (others.map fun patch =>
        (patch.id, (patch.run fs file.baseDirectory workspace .apply).1)) =
      others.map fun patch => (patch.id, .ok (outcome patch)) :=
    fun others hsubset => List.map_congr_left fun patch hpatch => by
      rw [houtcome patch (hsubset hpatch)]
  have happlied : applied = _ := apply_of_isIndependent hindependent hsucceeds
  have hpermuted : permuted = _ := apply_of_isIndependent hindependent' fun patch hpatch =>
    hsucceeds patch (hperm.subset hpatch)
  refine ⟨outcome, ?_, ?_, ?_, fun patch hpatch => houtcome patch (hperm.subset hpatch)⟩
  · rw [happlied, hresults _ (List.Subset.refl _)]
  · rw [hpermuted]
    exact hresults patches hperm.subset
  · rw [happlied, hpermuted]
    -- no two of the patches change the same file
    refine hperm.foldl_eq' (fun patch hpatch other hother current => ?_) fs
    by_cases hsame : patch = other
    · rw [hsame]
    · exact Patch.change_comm (hindependent'.locate_target_ne hpatch hother hsame)

/-- Two patches, one of which edits the end of a link and has its block in a third file, come to the
same the other way round. -/
theorem apply_perm_swapped :
    let first : Patch :=
      { id := "p", file := "f", anchor := [{ equals := some ['a'] }],
        insert := { text := some ['x'] } }
    let second : Patch :=
      { id := "q", file := "l", anchor := [{ equals := some ['a'] }],
        insert := { path := some "b" } }
    let file : PatchFile := { patches := [first, second] }
    let node := Node.file (Text.bytes ['a', '\n']) 0o644
    let fs : FileSystem :=
      ⟨[(["f"], node), (["g"], node), (["l"], .link "g"),
        (["b"], .file (Text.bytes ['y', '\n']) 0o600)], []⟩
    let applied := file.apply fs "" .apply
    let swapped := (file.withPatches [second, first]).apply fs "" .apply
    (∀ result ∈ applied.1, result.2.isOk) ∧ swapped = (applied.1.reverse, applied.2) ∧
      swapped.2.readText "f" = .ok ['a', '\n', 'x', '\n'] ∧
      swapped.2.readText "g" = .ok ['a', '\n', 'y', '\n'] := by
  intro first second file node fs applied swapped
  have hok : ∀ result ∈ applied.1, result.2.isOk := by decide +kernel
  obtain ⟨outcome, hresults, hswapped, hfiles, -⟩ :=
    apply_perm file fs "" [second, first] (List.Perm.swap first second []) hok
      (by decide +kernel) (by decide +kernel)
  refine ⟨hok, Prod.ext ?_ hfiles, by decide +kernel, by decide +kernel⟩
  have hreverse : applied.1.reverse = _ := congrArg List.reverse hresults
  rw [hreverse]
  exact hswapped

end PatchFile

end Graft
