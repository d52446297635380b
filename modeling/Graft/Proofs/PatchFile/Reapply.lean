import Graft.PatchFile.Validation
import Graft.Proofs.Edit.Present
import Graft.Proofs.PatchFile.Runs
import Mathlib.Data.List.Forall2

/-!
# Applying patch files again

After a patch file was applied, a second run finds every block where all of them still stand in one
piece. A patch may put its block between the lines of a block that an earlier patch of the same file
put in; that block is not found again.

* `Patch.IsPresent`: the block of a patch stands in its target.
* `PatchFile.isSettled_iff`: a run finds every block and changes nothing exactly where all blocks
  are present.
* `PatchFile.SparesBlocks`: a patch of a run leaves the blocks of earlier patches in one piece.
* `PatchFile.apply_again`: where every patch spares the blocks of earlier patches, applying a patch
  file a second time changes nothing.
-/

namespace Graft

namespace Patch

variable {patch other : Patch} {fs after : FileSystem} {base : Option Path} {workspace : Path}
  {location : Location} {text : Text} {edit : Edit} {s : Insertion}

/-- The block of a patch stands in its target. -/
def IsPresent (patch : Patch) (fs : FileSystem) (base : Option Path) (workspace : Path) : Prop :=
  ∃ edit text, patch.edit fs base = .ok edit ∧ fs.readText (patch.target workspace) = .ok text ∧
    (edit.block.find? text.lines).isSome

/-- A patch that leaves present blocks alone comes to that exactly where its block is present. -/
theorem isPresent_iff_run (hskip : patch.skipIfPresent) :
    patch.IsPresent fs base workspace ↔ ∃ line, (patch.run fs base workspace .apply).1 =
      .ok (.alreadyApplied (patch.target workspace) line) := by
  cases hedit : patch.edit fs base with
  | error e => simp [IsPresent, run, hedit]
  | ok edit =>
    -- what a patch comes to is what its edit comes to on the text, if that is read
    have hedit_skip : edit.skipIfPresent := by
      obtain ⟨pattern, blockText, -, -, rfl⟩ := edit_eq_ok_iff.1 hedit
      exact hskip
    cases htext : fs.readText (patch.target workspace) with
    | error e =>
      simp [IsPresent, run_of_edit hedit, Edit.run, Snapshot.read, htext, Except.mapError]
    | ok text =>
      have hpresent : patch.IsPresent fs base workspace ↔
          ∃ line, edit.plan (.ofText (patch.target workspace) text) =
            .ok (.alreadyPresent line) := by
        rw [Edit.plan_eq_alreadyPresent_iff_find? hedit_skip]
        simp [IsPresent, hedit, htext]
      rw [hpresent, run_apply_of_text hedit htext]
      cases edit.plan (.ofText (patch.target workspace) text) with
      | error e => simp
      | ok verdict =>
        cases verdict with
        | alreadyPresent line => simp
        | insert s => cases fs.reopen (patch.target workspace) <;> simp [Edit.outcome]

theorem run_of_isPresent (hskip : patch.skipIfPresent) (h : patch.IsPresent fs base workspace) :
    ∃ line, patch.run fs base workspace .apply =
      (.ok (.alreadyApplied (patch.target workspace) line), fs) := by
  obtain ⟨line, hline⟩ := (isPresent_iff_run hskip).1 h
  rcases run_apply_cases patch fs base workspace with
    ⟨e, hrun⟩ | ⟨other, hrun⟩ | ⟨location, text, edit, s, hinserts⟩
  · rw [hrun] at hline
    cases hline
  · exact ⟨other, hrun⟩
  · rw [hinserts.run_eq] at hline
    cases hline

/-- What is asked of the value of a result, if it has one. -/
instance decidableForallOk {ε α : Type} (result : Except ε α) (p : α → Prop) [DecidablePred p] :
    Decidable (∀ a, result = .ok a → p a) :=
  match result with
  | .ok a => decidable_of_iff (p a) (by simp)
  | .error _ => isTrue (by simp)

/-- There are no carriage returns in the text that a patch edits, and none in its block. -/
def IsPlain (patch : Patch) (fs : FileSystem) (base : Option Path) (workspace : Path) : Prop :=
  (∀ text, fs.readText (patch.target workspace) = .ok text → '\r' ∉ text) ∧
    ∀ text, patch.blockText fs base = .ok text → '\r' ∉ text

instance (patch : Patch) (fs : FileSystem) (base : Option Path) (workspace : Path) :
    Decidable (patch.IsPlain fs base workspace) :=
  inferInstanceAs (Decidable (_ ∧ _))

/-- A block that comes from another file is what it was when a file gets other bytes. -/
theorem blockText_setContent
    (hblock : ∀ path ∈ other.insert.path,
      fs.locate (blockPath base path) ≠ .ok location) (content : ByteArray) :
    other.blockText (fs.setContent location content) base = other.blockText fs base := by
  refine blockText_congr (.setContent fs location _) fun path hpath elsewhere helsewhere => ?_
  refine FileSystem.lookup_setContent_of_ne ?_
  rintro rfl
  exact hblock path hpath helsewhere

namespace Inserts

/-- What a path reads to afterwards. -/
theorem readText_after (h : patch.Inserts fs base workspace location text edit s) (path : Path) :
    (fs.setContent location s.text.bytes).readText path =
      if fs.locate path = .ok location then .ok s.text else fs.readText path :=
  FileSystem.readText_setContent (FileSystem.contentAt_of_readText h.readText_eq h.locate_eq) _ _

/-- An insertion without carriage returns brings none into what other patches read. -/
theorem isPlain_after (h : patch.Inserts fs base workspace location text edit s)
    (hplain : patch.IsPlain fs base workspace) (hother : other.IsPlain fs base workspace) :
    other.IsPlain (fs.setContent location s.text.bytes) base workspace := by
  obtain ⟨pattern, blockText, -, hblockText, rfl⟩ := edit_eq_ok_iff.1 h.edit_eq
  have hnew : '\r' ∉ s.text :=
    Edit.plain_of_plan rfl (hplain.1 text h.readText_eq) (hplain.2 blockText hblockText) h.plan_eq
  refine ⟨fun new hread => ?_, fun new hread => ?_⟩
  · rw [h.readText_after] at hread
    split at hread
    · cases hread
      exact hnew
    · exact hother.1 new hread
  · rcases blockText_eq_ok_iff.1 hread with ⟨htext, hpath⟩ | ⟨htext, path, hpath, hread⟩
    · exact hother.2 new (blockText_eq_ok_iff.2 (.inl ⟨htext, hpath⟩))
    · rw [h.readText_after] at hread
      split at hread
      · cases hread
        exact hnew
      · exact hother.2 new (blockText_eq_ok_iff.2 (.inr ⟨htext, path, hpath, hread⟩))

/-- The block of a patch does not come from the file that it goes into: that file has it. -/
theorem locate_blockPath_ne (h : patch.Inserts fs base workspace location text edit s)
    (hskip : patch.skipIfPresent) (hplain : patch.IsPlain fs base workspace) :
    ∀ path ∈ patch.insert.path, fs.locate (blockPath base path) ≠ .ok location := by
  intro path hpath hlocate
  obtain ⟨pattern, blockText, -, hblockText, rfl⟩ := edit_eq_ok_iff.1 h.edit_eq
  have hcontent := FileSystem.contentAt_of_readText h.readText_eq h.locate_eq
  have hread := FileSystem.readText_eq_ok_iff_contentAt.2 ⟨location, hlocate, hcontent⟩
  obtain rfl : text = blockText := by
    rcases blockText_eq_ok_iff.1 hblockText with ⟨-, hnone⟩ | ⟨-, other, hother, hread'⟩
    · rw [hnone] at hpath
      cases hpath
    · obtain rfl : path = other := Option.some.inj (hpath.symm.trans hother)
      exact Except.ok.inj (hread.symm.trans hread')
  -- a text has the block that it makes, so the patch would have left its target alone
  obtain ⟨hcore, -⟩ := Edit.plan_eq_insert_iff.1 h.plan_eq
  have hfind : ((patch.editOf pattern text).block.find? text.lines).isSome :=
    Block.find?_ofText_self (hplain.1 text h.readText_eq) hcore
  obtain ⟨line, hpresent⟩ := (Edit.plan_eq_alreadyPresent_iff_find? hskip).2 hfind
  have hplan := h.plan_eq
  rw [hpresent] at hplan
  cases hplan

/-- The block of a patch is present once it was put in. -/
theorem isPresent_after (h : patch.Inserts fs base workspace location text edit s)
    (hskip : patch.skipIfPresent) (hplain : patch.IsPlain fs base workspace) :
    patch.IsPresent (fs.setContent location s.text.bytes) base workspace := by
  have hedit : patch.edit (fs.setContent location s.text.bytes) base = .ok edit := by
    rw [edit_congr (blockText_setContent (h.locate_blockPath_ne hskip hplain) _), h.edit_eq]
  obtain ⟨pattern, blockText, -, hblockText, rfl⟩ := edit_eq_ok_iff.1 h.edit_eq
  refine ⟨_, s.text, hedit, ?_, ?_⟩
  · rw [h.readText_after, if_pos h.locate_eq]
  · exact Edit.find?_isSome_of_plan rfl hskip (hplain.2 blockText hblockText) h.plan_eq

/-- A block that is present stays so, if it comes from another file and is spared. -/
theorem isPresent_of_spared (h : patch.Inserts fs base workspace location text edit s)
    (hplain : patch.IsPlain fs base workspace) (hother : other.IsPresent fs base workspace)
    (hblock : ∀ path ∈ other.insert.path, fs.locate (blockPath base path) ≠ .ok location)
    (hspared : fs.locate (other.target workspace) = .ok location →
      ∀ blockText, other.blockText fs base = .ok blockText →
        (Block.ofText blockText).IsSpared text.lines s.index) :
    other.IsPresent (fs.setContent location s.text.bytes) base workspace := by
  obtain ⟨made, old, hmade, hold, hfind⟩ := hother
  have hedit : other.edit (fs.setContent location s.text.bytes) base = .ok made := by
    rw [edit_congr (blockText_setContent hblock _), hmade]
  by_cases hlocate : fs.locate (other.target workspace) = .ok location
  · -- both edit the file at `location`, where the lines moved apart
    refine ⟨made, s.text, hedit, by rw [h.readText_after, if_pos hlocate], ?_⟩
    obtain ⟨pattern, blockText, -, hblockText, rfl⟩ := edit_eq_ok_iff.1 hmade
    obtain ⟨_, newBlock, -, -, rfl⟩ := edit_eq_ok_iff.1 h.edit_eq
    have hcore := (Block.find?_isSome_iff.1 hfind).1
    exact Edit.find?_isSome_of_spared rfl (hplain.1 text h.readText_eq) h.plan_eq hcore
      (hspared hlocate blockText hblockText)
  · exact ⟨made, old, hedit, by rw [h.readText_after, if_neg hlocate, hold], hfind⟩

end Inserts

end Patch

namespace PatchFile

variable {base : Option Path} {workspace : Path} {patches : List Patch} {fs : FileSystem}
  {file : PatchFile}

/-- A run finds every block and changes nothing. -/
def IsSettled (file : PatchFile) (fs : FileSystem) (workspace : Path) : Prop :=
  List.Forall₂ (fun patch result => result.1 = patch.id ∧
      ∃ line, result.2 = .ok (.alreadyApplied (patch.target workspace) line))
    file.patches (file.apply fs workspace .apply).1 ∧
  (file.apply fs workspace .apply).2 = fs

/-- A run finds every block and changes nothing exactly where every block is present. -/
theorem isSettled_iff (hskip : ∀ patch ∈ file.patches, patch.skipIfPresent) :
    file.IsSettled fs workspace ↔
      ∀ patch ∈ file.patches, patch.IsPresent fs file.baseDirectory workspace := by
  rw [IsSettled, apply]
  generalize file.patches = patches at hskip
  induction patches with
  | nil => simp [runAll]
  | cons patch rest ih =>
    rw [List.forall_mem_cons] at hskip
    rw [List.forall_mem_cons, ← ih hskip.2]
    by_cases hpresent : patch.IsPresent fs file.baseDirectory workspace
    · obtain ⟨line, hrun⟩ := Patch.run_of_isPresent hskip.1 hpresent
      rw [runAll_cons_of_ok hrun]
      simp [hpresent]
    · -- the first result is another one
      constructor
      · rintro ⟨hresults, -⟩
        refine absurd ((Patch.isPresent_iff_run hskip.1).2 ?_) hpresent
        rcases runAll_cons_cases patch rest fs with
          ⟨e, after, hrun, hall⟩ | ⟨outcome, after, hrun, hall⟩
        · rw [hall, List.forall₂_cons] at hresults
          rw [hrun]
          exact hresults.1.2
        · rw [hall, List.forall₂_cons] at hresults
          rw [hrun]
          exact hresults.1.2
      · exact fun h => absurd h.1 hpresent

/-- Where all patches of a run succeed, all of them are attempted. -/
theorem length_runAll_of_isOk
    (h : ∀ result ∈ (runAll base workspace .apply .stop patches fs).1, result.2.isOk) :
    (runAll base workspace .apply .stop patches fs).1.length = patches.length := by
  induction patches generalizing fs with
  | nil => rfl
  | cons patch rest ih =>
    rcases runAll_cons_cases patch rest fs with
      ⟨e, after, hrun, hall⟩ | ⟨outcome, after, hrun, hall⟩
    · rw [hall] at h
      cases h _ List.mem_cons_self
    · rw [hall, List.forall_mem_cons] at h
      rw [hall, List.length_cons, List.length_cons, ih h.2]

/-- The patch at a position of a run leaves the blocks of the patches before it in one piece: it
puts its block into none of the files that those come from, and not between the lines of any that
stands in the same file. -/
def SparesBlocks (file : PatchFile) (fs : FileSystem) (workspace : Path) (i : Nat) : Prop :=
  let current := file.filesAt fs workspace i
  ∀ patch location text edit s, file.patches[i]? = some patch →
    patch.Inserts current file.baseDirectory workspace location text edit s →
    ∀ earlier ∈ file.patches.take i,
      (∀ path ∈ earlier.insert.path,
        current.locate (Patch.blockPath file.baseDirectory path) ≠ .ok location) ∧
      (current.locate (earlier.target workspace) = .ok location →
        ∀ blockText, earlier.blockText current file.baseDirectory = .ok blockText →
          (Block.ofText blockText).IsSpared text.lines s.index)

/-- In a run, the blocks of the patches that were applied stay present. -/
theorem isPresent_filesAt (hskip : ∀ patch ∈ file.patches, patch.skipIfPresent)
    (hplain : ∀ patch ∈ file.patches, patch.IsPlain fs file.baseDirectory workspace)
    (hok : ∀ result ∈ (file.apply fs workspace .apply).1, result.2.isOk)
    (hspares : ∀ i, file.SparesBlocks fs workspace i) {i : Nat} (hi : i ≤ file.patches.length) :
    (∀ patch ∈ file.patches,
        patch.IsPlain (file.filesAt fs workspace i) file.baseDirectory workspace) ∧
      ∀ patch ∈ file.patches.take i,
        patch.IsPresent (file.filesAt fs workspace i) file.baseDirectory workspace := by
  -- the invariant of the run: there are still no carriage returns anywhere, and every block that
  -- had its turn is present
  induction i with
  | zero => exact ⟨hplain, by simp⟩
  | succ i ih =>
    obtain ⟨hplain_i, hpresent⟩ := ih (Nat.le_of_succ_le hi)
    have hlt : i < (file.apply fs workspace .apply).1.length := by
      rw [apply, length_runAll_of_isOk hok]
      exact hi
    have hattempted := List.getElem?_eq_getElem hlt
    obtain ⟨patch, hpatch, hresult, hafter⟩ := exists_of_getElem?_apply hattempted
    have hmem := List.mem_of_getElem? hpatch
    rw [List.take_add_one, hpatch, hafter]
    simp only [Option.toList_some, List.forall_mem_append, List.forall_mem_singleton]
    rcases patch.run_apply_cases (file.filesAt fs workspace i) file.baseDirectory workspace with
      ⟨e, hrun⟩ | ⟨line, hrun⟩ | ⟨location, text, edit, s, hinserts⟩
    · -- no patch fails
      have hfirst := hok _ (List.getElem_mem hlt)
      rw [hresult, hrun] at hfirst
      cases hfirst
    · rw [hrun]
      refine ⟨hplain_i, hpresent, (Patch.isPresent_iff_run (hskip patch hmem)).2 ⟨line, ?_⟩⟩
      rw [hrun]
    · -- the block of this patch is present now, and the blocks before it are spared
      have hplain_patch := hplain_i patch hmem
      rw [hinserts.run_eq]
      refine ⟨fun other hother => hinserts.isPlain_after hplain_patch (hplain_i other hother),
        fun earlier hearlier => ?_, hinserts.isPresent_after (hskip patch hmem) hplain_patch⟩
      obtain ⟨hblock, hspared⟩ :=
        hspares i patch location text edit s hpatch hinserts earlier hearlier
      exact hinserts.isPresent_of_spared hplain_patch (hpresent earlier hearlier) hblock hspared

/-- A second run finds every block and changes nothing exactly where the first left every block
present; it does where every patch spared the blocks of the patches before it. -/
theorem apply_again (file : PatchFile) (fs : FileSystem) (workspace : Path)
    (hskip : ∀ patch ∈ file.patches, patch.skipIfPresent)
    (hplain : ∀ patch ∈ file.patches, patch.IsPlain fs file.baseDirectory workspace)
    (hok : ∀ result ∈ (file.apply fs workspace .apply).1, result.2.isOk) :
    let after := (file.apply fs workspace .apply).2
    (file.IsSettled after workspace ↔
      ∀ patch ∈ file.patches, patch.IsPresent after file.baseDirectory workspace) ∧
    ((∀ i, file.SparesBlocks fs workspace i) → file.IsSettled after workspace) := by
  intro after
  refine ⟨isSettled_iff hskip, fun hspares => (isSettled_iff hskip).2 ?_⟩
  obtain ⟨-, hpresent⟩ := isPresent_filesAt hskip hplain hok hspares (Nat.le_refl _)
  rw [filesAt, List.take_length] at hpresent
  exact hpresent

/-- A second block goes in below the first, which stays in one piece. -/
theorem apply_again_below :
    let first : Patch :=
      { id := "p", file := "f", anchor := [{ equals := some ['a'] }],
        insert := { text := some ['x', '\n', 'y'] } }
    let second : Patch :=
      { id := "q", file := "f", anchor := [{ equals := some ['y'] }],
        insert := { text := some ['z'] } }
    let file : PatchFile := { patches := [first, second] }
    let fs : FileSystem := ⟨[(["f"], .file (Text.bytes ['a', '\n']) 0o644)], []⟩
    (file.apply fs "" .apply).2.readText "f" =
        .ok ['a', '\n', 'x', '\n', 'y', '\n', 'z', '\n'] ∧
      file.IsSettled (file.apply fs "" .apply).2 "" := by
  intro first second file fs
  have hskip : ∀ patch ∈ file.patches, patch.skipIfPresent := by decide
  have hplain : ∀ patch ∈ file.patches, patch.IsPlain fs none "" := by decide +kernel
  have hok : ∀ result ∈ (file.apply fs "" .apply).1, result.2.isOk := by decide +kernel
  have hspares : ∀ i, file.SparesBlocks fs "" i := by
    intro i patch location text edit s hpatch hinserts earlier hearlier
    have hi : i < 2 := (List.getElem?_eq_some_iff.1 hpatch).1
    have hpos : i ≠ 0 := by
      rintro rfl
      cases hearlier
    obtain rfl : i = 1 := by omega
    obtain rfl : second = patch := Option.some.inj hpatch
    obtain rfl : earlier = first := List.mem_singleton.1 hearlier
    have htext : (file.filesAt fs "" 1).readText (second.target "") =
        .ok ['a', '\n', 'x', '\n', 'y', '\n'] := by decide +kernel
    have hedit : second.edit (file.filesAt fs "" 1) none =
        .ok (second.editOf ⟨[⟨0, .equals ['y']⟩]⟩ ['z']) := by decide +kernel
    obtain rfl := Except.ok.inj (htext.symm.trans hinserts.readText_eq)
    obtain rfl := Except.ok.inj (hedit.symm.trans hinserts.edit_eq)
    have hindex : s.index = 3 := by
      have hplan : (second.editOf ⟨[⟨0, .equals ['y']⟩]⟩ ['z']).plan
          (.ofText (second.target "") ['a', '\n', 'x', '\n', 'y', '\n']) =
            .ok (.insert ⟨2, 3, 1, 1, [['a', '\n'], ['x', '\n'], ['y', '\n'], ['z', '\n']]⟩) := by
        decide +kernel
      cases hplan.symm.trans hinserts.plan_eq
      rfl
    refine ⟨fun path hpath => ?_, fun _ blockText hblockText => ?_⟩
    · cases hpath
    · obtain rfl : ['x', '\n', 'y'] = blockText := Except.ok.inj hblockText
      rw [hindex]
      exact ⟨1, by decide, .inr (by decide)⟩
  exact ⟨by decide +kernel, (apply_again file fs "" hskip hplain hok).2 hspares⟩

/-- A second block goes in between the lines of the first, which a second run puts in again. -/
theorem apply_again_between :
    let first : Patch :=
      { id := "p", file := "f", anchor := [{ equals := some ['a'] }],
        insert := { text := some ['x', '\n', 'y'] } }
    let second : Patch :=
      { id := "q", file := "f", anchor := [{ equals := some ['x'] }],
        insert := { text := some ['z'] } }
    let file : PatchFile := { patches := [first, second] }
    let fs : FileSystem := ⟨[(["f"], .file (Text.bytes ['a', '\n']) 0o644)], []⟩
    let after := (file.apply fs "" .apply).2
    issues file.patches = [] ∧ (∀ patch ∈ file.patches, patch.skipIfPresent) ∧
      (∀ patch ∈ file.patches, patch.IsPlain fs none "") ∧
      (∀ result ∈ (file.apply fs "" .apply).1, result.2.isOk) ∧
      after.readText "f" = .ok ['a', '\n', 'x', '\n', 'z', '\n', 'y', '\n'] ∧
      (file.apply after "" .apply).1 =
        [("p", .ok (.inserted "f" 2 2 1 true ['a', '\n', 'x', '\n', 'z', '\n', 'y', '\n']
            ['a', '\n', 'x', '\n', 'y', '\n', 'x', '\n', 'z', '\n', 'y', '\n'])),
          ("q", .ok (.alreadyApplied "f" 5))] := by
  decide +kernel

end PatchFile

end Graft
