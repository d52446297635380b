import Graft.PatchFile.Load
import Graft.Proofs.Edit.Blank
import Graft.Proofs.PatchFile.Issues
import Graft.Proofs.PatchFile.Step
import Mathlib.Data.List.Forall2

/-!
# What validation lets through

The faults of a patch file are looked for field by field, and the edit of a patch is made from its
fields without a look at the faults. Both judge alike.

* `Patch.pattern_eq_ok_iff`: a pattern has one condition for each anchor entry, in their order.
* `Patch.issues_eq_nil_iff`: what a patch without faults looks like.
* `PatchFile.parse_iff_edit`: patches of a patch file that was returned make edits, and what keeps a
  patch file from being returned keeps one of its patches from making an edit that inserts anything.
-/

namespace Graft

theorem AnchorEntry.mapM_condition_eq_ok_iff {entries : List AnchorEntry}
    {conditions : List Condition} :
    entries.mapM AnchorEntry.condition = .ok conditions ↔
      List.Forall₂ (fun entry c => AnchorEntry.condition entry = .ok c) entries conditions := by
  induction entries generalizing conditions with
  | nil => simp [pure, Except.pure, eq_comm]
  | cons entry entries ih =>
    rw [List.mapM_cons, List.forall₂_cons_left_iff]
    cases hentry : entry.condition with
    | error e => simp [bind, Except.bind]
    | ok c =>
      cases hrest : entries.mapM AnchorEntry.condition with
      | error e => simp [← ih, hrest, bind, Except.bind]
      | ok rest =>
        simp only [← ih, hrest, bind, Except.bind, pure, Except.pure, Except.ok.injEq]
        constructor
        · rintro rfl
          exact ⟨c, rest, rfl, rfl, rfl⟩
        · rintro ⟨_, _, rfl, rfl, rfl⟩
          rfl

theorem AnchorEntry.exists_mapM_condition_iff {entries : List AnchorEntry} :
    (∃ conditions, entries.mapM AnchorEntry.condition = .ok conditions) ↔
      ∀ entry ∈ entries, ∃ c, AnchorEntry.condition entry = .ok c := by
  simp only [mapM_condition_eq_ok_iff]
  induction entries with
  | nil => simp
  | cons entry entries ih => simp [List.forall₂_cons_left_iff, ← ih]

namespace Patch

variable {patch : Patch} {fs : FileSystem} {base : Option Path} {pattern : Pattern}

/-- A pattern has one condition for each anchor entry, in their order. -/
theorem pattern_eq_ok_iff :
    patch.pattern = .ok pattern ↔
      List.Forall₂ (fun entry c => AnchorEntry.condition entry = .ok c) patch.anchor
        pattern.conditions := by
  rw [← AnchorEntry.mapM_condition_eq_ok_iff, Patch.pattern]
  cases patch.anchor.mapM AnchorEntry.condition with
  | error e => simp [Except.map]
  | ok conditions =>
    simp only [Except.map, Except.ok.injEq]
    constructor
    · rintro rfl
      rfl
    · rintro rfl
      rfl

theorem exists_pattern_iff :
    (∃ pattern, patch.pattern = .ok pattern) ↔
      ∀ entry ∈ patch.anchor, ∃ c, AnchorEntry.condition entry = .ok c := by
  rw [← AnchorEntry.exists_mapM_condition_iff]
  simp only [pattern_eq_ok_iff, AnchorEntry.mapM_condition_eq_ok_iff]
  constructor
  · rintro ⟨pattern, h⟩
    exact ⟨pattern.conditions, h⟩
  · rintro ⟨conditions, h⟩
    exact ⟨⟨conditions⟩, h⟩

/-- No anchor entry is a fault exactly when all of them together are a pattern. -/
theorem anchorConflicts_eq_nil_iff :
    patch.anchorConflicts = [] ↔ ∃ pattern, patch.pattern = .ok pattern := by
  rw [exists_pattern_iff, List.eq_nil_iff_forall_not_mem]
  constructor
  · -- an entry that is no condition would be a fault at its index
    intro h entry hentry
    obtain ⟨i, hi⟩ := List.getElem?_of_mem hentry
    cases hcondition : entry.condition with
    | error e => exact absurd (mem_anchorConflicts_iff.2 ⟨i, entry, e, hi, hcondition, rfl⟩) (h _)
    | ok c => exact ⟨c, rfl⟩
  · intro h clash hclash
    obtain ⟨i, entry, e, hentry, herror, rfl⟩ := mem_anchorConflicts_iff.1 hclash
    obtain ⟨c, hc⟩ := h entry (List.mem_of_getElem? hentry)
    rw [herror] at hc
    cases hc

/-- A block source without a fault is a text that is not blank, or a path. -/
theorem sourceIssue?_eq_none_iff :
    patch.sourceIssue? = none ↔
      (∃ text, patch.insert.text = some text ∧ patch.insert.path = none ∧ ¬text.isBlank) ∨
        patch.insert.text = none ∧ ∃ path, patch.insert.path = some path := by
  unfold sourceIssue?
  cases patch.insert.text with
  | none => cases patch.insert.path <;> simp
  | some text =>
    cases patch.insert.path with
    | none => by_cases hblank : text.isBlank <;> simp [hblank]
    | some path => simp

theorem issues_eq_nil_iff :
    patch.issues = [] ↔
      (isBlankName patch.id = false ∧ isBlankName patch.file = false ∧ patch.anchor ≠ []) ∧
        (∃ pattern, patch.pattern = .ok pattern) ∧ patch.sourceIssue? = none := by
  rw [← anchorConflicts_eq_nil_iff]
  simp [issues, and_assoc]

/-! ## The edit of a patch -/

theorem blockText_of_text {text : Text} (htext : patch.insert.text = some text)
    (hpath : patch.insert.path = none) : patch.blockText fs base = .ok text := by
  simp [blockText, htext, hpath]

/-- Where the block comes from a file, only the reading of that file can fail. -/
theorem blockText_of_path {path : Path} {e : PatchFailure} (htext : patch.insert.text = none)
    (hpath : patch.insert.path = some path) (h : patch.blockText fs base = .error e) :
    ∃ cause, e = .blockUnreadable (blockPath base path) cause := by
  simp only [blockText, htext, hpath] at h
  split at h
  next => cases h
  next cause _ => exact ⟨cause, (Except.error.inj h).symm⟩

/-- A block that comes from no source or from two is no block of an edit. -/
theorem edit_of_blockSource
    (hsource : patch.insert.text.isSome = patch.insert.path.isSome) :
    ∃ reason, patch.edit fs base = .error (.invalid reason) := by
  cases hpattern : patch.pattern with
  | error e => exact ⟨.anchorEntry e, by simp [edit, hpattern]⟩
  | ok pattern =>
    refine ⟨.blockSource, ?_⟩
    rw [edit_of_pattern hpattern, blockText]
    cases htext : patch.insert.text <;> cases hpath : patch.insert.path <;>
      simp_all [Except.map]

/-- A patch without faults is never refused as none. -/
theorem edit_ne_invalid (h : patch.issues = []) (reason : InvalidPatch) :
    patch.edit fs base ≠ .error (.invalid reason) := by
  obtain ⟨-, ⟨pattern, hpattern⟩, hsource⟩ := issues_eq_nil_iff.1 h
  rw [edit_of_pattern hpattern]
  rcases sourceIssue?_eq_none_iff.1 hsource with
    ⟨text, htext, hpath, -⟩ | ⟨htext, path, hpath⟩
  · rw [blockText_of_text htext hpath]
    simp [Except.map]
  · cases hblock : patch.blockText fs base with
    | ok text => simp [Except.map]
    | error e =>
      obtain ⟨cause, rfl⟩ := blockText_of_path htext hpath hblock
      simp [Except.map]

/-- The edit of a patch without faults has a condition for each anchor entry, and some condition. -/
theorem conditions_of_edit {edit : Edit} (h : patch.issues = [])
    (hedit : patch.edit fs base = .ok edit) :
    edit.pattern.conditions ≠ [] ∧
      List.Forall₂ (fun entry c => AnchorEntry.condition entry = .ok c) patch.anchor
        edit.pattern.conditions := by
  obtain ⟨⟨-, -, hanchor⟩, -, -⟩ := issues_eq_nil_iff.1 h
  obtain ⟨pattern, text, hpattern, -, rfl⟩ := edit_eq_ok_iff.1 hedit
  have hconditions := pattern_eq_ok_iff.1 hpattern
  -- there are as many conditions as anchor entries
  refine ⟨fun hnil => hanchor ?_, hconditions⟩
  rw [← List.length_eq_zero_iff, hconditions.length_eq]
  exact List.length_eq_zero_iff.2 hnil

/-- A patch without faults whose block is given as a text always makes an edit, and that is not
refused for its block. -/
theorem exists_edit_of_text {text : Text} (h : patch.issues = [])
    (htext : patch.insert.text = some text) :
    ∃ edit, patch.edit fs base = .ok edit ∧ edit.block.core ≠ [] := by
  obtain ⟨-, ⟨pattern, hpattern⟩, hsource⟩ := issues_eq_nil_iff.1 h
  rcases sourceIssue?_eq_none_iff.1 hsource with
    ⟨block, hblock, hpath, hblank⟩ | ⟨hnone, -⟩
  · obtain rfl : block = text := Option.some.inj (hblock.symm.trans htext)
    refine ⟨patch.editOf pattern block, ?_, mt Block.core_ofText_eq_nil_iff.1 hblank⟩
    exact edit_eq_ok_iff.2 ⟨pattern, block, hpattern, blockText_of_text htext hpath, rfl⟩
  · rw [hnone] at htext
    cases htext

/-- A patch without faults whose block comes from a file makes no edit only if that file cannot be
read. -/
theorem edit_eq_error_of_path {path : Path} {e : PatchFailure} (h : patch.issues = [])
    (hpath : patch.insert.path = some path) (hedit : patch.edit fs base = .error e) :
    ∃ cause, e = .blockUnreadable (blockPath base path) cause := by
  obtain ⟨-, ⟨pattern, hpattern⟩, hsource⟩ := issues_eq_nil_iff.1 h
  have htext : patch.insert.text = none := by
    rcases sourceIssue?_eq_none_iff.1 hsource with ⟨-, -, hnone, -⟩ | ⟨htext, -⟩
    · rw [hnone] at hpath
      cases hpath
    · exact htext
  rw [edit_of_pattern hpattern] at hedit
  cases hblock : patch.blockText fs base with
  | ok text =>
    rw [hblock] at hedit
    cases hedit
  | error other =>
    rw [hblock] at hedit
    cases hedit
    exact blockText_of_path htext hpath hblock

/-- A patch that has its fields filled in and is at fault makes no edit at all, or one that is
refused everywhere. -/
theorem edit_of_issues_ne_nil
    (hfilled : isBlankName patch.id = false ∧ isBlankName patch.file = false ∧ patch.anchor ≠ [])
    (h : patch.issues ≠ []) :
    (∀ base fs, ∃ reason, patch.edit fs base = .error (.invalid reason)) ∨
      (∃ text, patch.insert.text = some text) ∧ ∀ base fs, ∃ edit, patch.edit fs base = .ok edit ∧
        ∀ snapshot, edit.plan snapshot = .error (.emptyBlock snapshot.path) := by
  cases hpattern : patch.pattern with
  | error e => exact .inl fun base fs => ⟨.anchorEntry e, by simp [edit, hpattern]⟩
  | ok pattern =>
    -- the fault is in the block source, then
    have hsource : patch.sourceIssue? ≠ none := by
      intro hnone
      exact h (issues_eq_nil_iff.2 ⟨hfilled, ⟨pattern, hpattern⟩, hnone⟩)
    rw [Ne, sourceIssue?_eq_none_iff, not_or] at hsource
    cases htext : patch.insert.text with
    | none =>
      cases hpath : patch.insert.path with
      | none => exact .inl fun base fs => edit_of_blockSource (by rw [htext, hpath]; rfl)
      | some path => exact absurd ⟨htext, path, hpath⟩ hsource.2
    | some text =>
      cases hpath : patch.insert.path with
      | some path => exact .inl fun base fs => edit_of_blockSource (by rw [htext, hpath]; rfl)
      | none =>
        have hblank : text.isBlank := by
          by_contra hblank
          exact hsource.1 ⟨text, htext, hpath, hblank⟩
        refine .inr ⟨⟨text, rfl⟩, fun base fs => ⟨patch.editOf pattern text, ?_, ?_⟩⟩
        · exact edit_eq_ok_iff.2 ⟨pattern, text, hpattern, blockText_of_text htext hpath, rfl⟩
        · exact Edit.plan_of_core_eq_nil (Block.core_ofText_eq_nil_iff.2 hblank)

end Patch

namespace PatchFile

/-- A patch file has no faults exactly when it has patches and none of them is at fault. -/
theorem issues_eq_nil_iff {patches : List Patch} :
    issues patches = [] ↔ patches ≠ [] ∧ ∀ patch ∈ patches, patch.issues = [] := by
  unfold issues
  cases patches <;> simp

/-- Every patch of a patch file that was returned makes an edit, with a condition for each anchor
entry and a block that is not empty, unless its block file cannot be read; a patch file with all
fields filled in that is at fault has a patch that makes no edit, or one that is refused everywhere
because its block is empty. -/
theorem parse_iff_edit :
    (∀ text file, parse none text = .ok file →
      ∀ patch ∈ file.patches, ∀ base fs,
        (∀ reason, patch.edit fs base ≠ .error (.invalid reason)) ∧
        (∀ edit, patch.edit fs base = .ok edit →
          edit.pattern.conditions ≠ [] ∧
            List.Forall₂ (fun entry c => AnchorEntry.condition entry = .ok c) patch.anchor
              edit.pattern.conditions) ∧
        (∀ block, patch.insert.text = some block →
          ∃ edit, patch.edit fs base = .ok edit ∧
            ∀ fs path mode other, (edit.run fs path mode).1 ≠ .error (.emptyBlock other)) ∧
        (∀ path, patch.insert.path = some path → ∀ e, patch.edit fs base = .error e →
          ∃ cause, e = .blockUnreadable (Patch.blockPath base path) cause)) ∧
    ∀ file : PatchFile, file.patches ≠ [] →
      (∀ patch ∈ file.patches, isBlankName patch.id = false ∧ isBlankName patch.file = false ∧
        patch.anchor ≠ []) →
      issues file.patches ≠ [] →
      ∃ patch ∈ file.patches,
        (∀ base fs, ∃ reason, patch.edit fs base = .error (.invalid reason)) ∨
          (∃ block, patch.insert.text = some block) ∧
            ∀ base fs, ∃ edit, patch.edit fs base = .ok edit ∧
              ∀ snapshot, edit.plan snapshot = .error (.emptyBlock snapshot.path) := by
  constructor
  · intro text file hparse patch hpatch base fs
    have hissues := (issues_eq_nil_iff.1 (issues_of_parse hparse)).2 patch hpatch
    refine ⟨fun reason => Patch.edit_ne_invalid hissues reason,
      fun edit hedit => Patch.conditions_of_edit hissues hedit, fun block hblock => ?_,
      fun path hpath e he => Patch.edit_eq_error_of_path hissues hpath he⟩
    obtain ⟨edit, hedit, hcore⟩ := Patch.exists_edit_of_text hissues hblock
    exact ⟨edit, hedit, fun fs path mode other => Edit.run_ne_emptyBlock hcore other⟩
  · intro file hne hfilled hissues
    rw [Ne, issues_eq_nil_iff, not_and] at hissues
    obtain ⟨patch, hpatch, hfault⟩ : ∃ patch ∈ file.patches, patch.issues ≠ [] := by
      simpa using hissues hne
    exact ⟨patch, hpatch, Patch.edit_of_issues_ne_nil (hfilled patch hpatch) hfault⟩

/-- A patch file with one patch, and the same with a block of white space. -/
theorem parse_iff_edit_single :
    let text := ("[[patches]]\nid = \"p\"\nfile = \"f\"\n[[patches.anchor]]\nequals = \"a\"\n" ++
      "[patches.insert]\ntext = \"x\"\n").toList
    let patch : Patch :=
      { id := "p", file := "f", anchor := [{ equals := some ['a'] }],
        insert := { text := some ['x'] } }
    let blank : Patch := { patch with insert := { text := some [' ', '\r', '\n'] } }
    (parse none text = .ok { patches := [patch] } ∧
      ∃ edit, patch.edit ⟨[], []⟩ none = .ok edit ∧
        (edit.run ⟨[], []⟩ "f" .apply).1 ≠ .error (.emptyBlock "f")) ∧
    issues [patch, blank] = [.missingField (some "p") .insertText] ∧
      ∃ other ∈ [patch, blank],
        (∀ base fs, ∃ reason, other.edit fs base = .error (.invalid reason)) ∨
          (∃ block, other.insert.text = some block) ∧
            ∀ base fs, ∃ edit, other.edit fs base = .ok edit ∧
              ∀ snapshot, edit.plan snapshot = .error (.emptyBlock snapshot.path) := by
  intro text patch blank
  have hparse : parse none text = .ok { patches := [patch] } := by decide +kernel
  have hissues : issues [patch, blank] = [.missingField (some "p") .insertText] := by
    decide +kernel
  refine ⟨⟨hparse, ?_⟩, hissues, ?_⟩
  · obtain ⟨-, -, hinline, -⟩ :=
      parse_iff_edit.1 text _ hparse patch List.mem_cons_self none ⟨[], []⟩
    obtain ⟨edit, hedit, hrun⟩ := hinline ['x'] rfl
    exact ⟨edit, hedit, hrun _ _ _ _⟩
  · refine parse_iff_edit.2 { patches := [patch, blank] } (by simp) ?_ (by simp [hissues])
    intro other hother
    rcases List.mem_pair.1 hother with rfl | rfl <;> decide

end PatchFile

end Graft
