import Graft.Command
import Graft.Proofs.PatchFile.Sequence

/-!
# The patch files that a command gets to

Applying patch files ends at the first one that cannot be loaded or has a patch that fails. What the
command comes to is put together from what it does with each patch file up to there.

* `Command.visits`: the patch files that a command gets to, each with the files at that time.
* `Command.apply_eq_completion`: the command, told by these.
* `Tally.total_ofResults`, `Command.failed_tally_le_one`: what is counted.
* `Command.summary_eq`: what is printed of it.
-/

namespace Graft

namespace Output

theorem out_append (a b : Output) : (a ++ b).out = a.out ++ b.out := rfl

theorem mk_append_mk (a b c d : String) :
    (⟨a, b⟩ : Output) ++ ⟨c, d⟩ = ⟨a ++ c, b ++ d⟩ := rfl

theorem append_assoc (a b c : Output) : a ++ b ++ c = a ++ (b ++ c) := by
  show append (append a b) c = append a (append b c)
  simp only [append, String.append_assoc]

@[simp]
theorem empty_append (a : Output) : ({} : Output) ++ a = a := by
  show append {} a = a
  simp only [append, String.empty_append]

@[simp]
theorem append_empty (a : Output) : a ++ ({} : Output) = a := by
  show append a {} = a
  simp only [append, String.append_empty]

theorem concat_nil : concat [] = {} := rfl

theorem concat_cons (first : Output) (rest : List Output) :
    concat (first :: rest) = first ++ concat rest := by
  have hfold : ∀ start : Output, rest.foldl append start = start ++ concat rest := by
    induction rest with
    | nil => intro start; exact (append_empty start).symm
    | cons next rest ih =>
      intro start
      rw [concat, List.foldl_cons, List.foldl_cons, ih, ih, ← append_assoc]
      rw [show append {} next = next from empty_append next]
      rfl
  rw [concat, List.foldl_cons, hfold, show append {} first = first from empty_append first]

end Output

namespace Tally

/-- How many results there are. -/
def total (tally : Tally) : Nat :=
  tally.inserted + tally.alreadyApplied + tally.failed

/-- How patches came out, by their results. -/
def ofResults (results : List PatchResult) : Tally :=
  (results.map Prod.snd).foldl add {}

variable {tally : Tally} {result : Except PatchFailure Outcome}

@[simp]
theorem total_add : (tally.add result).total = tally.total + 1 := by
  unfold add total
  split <;> simp only <;> omega

theorem failed_add : (tally.add result).failed = tally.failed + if result.isOk then 0 else 1 := by
  unfold add
  split <;> rfl

/-- Every result is counted once. -/
theorem total_ofResults (results : List PatchResult) :
    (ofResults results).total = results.length := by
  have hfold : ∀ (results : List (Except PatchFailure Outcome)) (tally : Tally),
      (results.foldl add tally).total = tally.total + results.length := by
    intro results
    induction results with
    | nil => intro tally; rfl
    | cons result rest ih =>
      intro tally
      rw [List.foldl_cons, ih, total_add, List.length_cons]
      omega
  rw [ofResults, hfold, List.length_map]
  exact Nat.zero_add _

/-- The failures are counted apart. -/
theorem failed_ofResults (results : List PatchResult) :
    (ofResults results).failed = results.countP fun result => !result.2.isOk := by
  have hfold : ∀ (results : List PatchResult) (tally : Tally),
      ((results.map Prod.snd).foldl add tally).failed =
        tally.failed + results.countP fun result => !result.2.isOk := by
    intro results
    induction results with
    | nil => intro tally; rfl
    | cons result rest ih =>
      intro tally
      rw [List.map_cons, List.foldl_cons, ih, failed_add, List.countP_cons]
      cases result.2.isOk
      · simp
        omega
      · simp
  rw [ofResults, hfold]
  exact Nat.zero_add _

end Tally

namespace Command

variable (colored verbose : Bool) (workspace : Path) (mode : Mode) (diff : Bool)

/-- A patch file that a command gets to. -/
structure Visit where
  /-- The path of the patch file. -/
  path : Path
  /-- The file system at that time. -/
  files : FileSystem

namespace Visit

/-- Why the patch file cannot be loaded, if it cannot. -/
def loadError? (visit : Visit) : Option LoadError :=
  match PatchFile.load visit.files visit.path with
  | .ok _ => none
  | .error e => some e

/-- The results of the patches that are attempted. -/
def results (visit : Visit) : List PatchResult :=
  match PatchFile.load visit.files visit.path with
  | .ok file => (file.apply visit.files workspace mode).1
  | .error _ => []

/-- The file system afterwards. -/
def after (visit : Visit) : FileSystem :=
  match PatchFile.load visit.files visit.path with
  | .ok file => (file.apply visit.files workspace mode).2
  | .error _ => visit.files

/-- Whether the patch file is loaded and none of its patches fails. -/
def isDone (visit : Visit) : Bool :=
  visit.loadError?.isNone && (visit.results workspace mode).all fun result => result.2.isOk

/-- What is said about the patch file. -/
def said (visit : Visit) : Output :=
  Output.line ("Loading patches from " ++ visit.path ++ "...") ++
    match PatchFile.load visit.files visit.path with
    | .ok file =>
      log verbose (file.applyEvents visit.files workspace mode)
        ++ Output.concat ((visit.results workspace mode).map (applied colored diff))
        ++ if visit.isDone workspace mode then Output.line "" else {}
    | .error _ => {}

end Visit

/-- The patch files that a command gets to, one after another, up to the first that it cannot get
done. -/
def visits : List Path → FileSystem → List Visit
  | [], _ => []
  | path :: rest, fs =>
    let visit : Visit := ⟨path, fs⟩
    visit :: if visit.isDone workspace mode then visits rest (visit.after workspace mode) else []

/-- The results of all patches that are attempted. -/
def attempted (visits : List Visit) : List PatchResult :=
  visits.flatMap (Visit.results workspace mode)

/-- What is said before the first patch file. -/
def opening : Output :=
  Output.line ("Workspace: " ++ workspace)
    ++ (if mode = .preview then
      Output.line (Style.cyan.paint colored "[DRY RUN - no files will be modified]") else {})
    ++ Output.line ""

/-- The summary of a command. -/
def summary (tally : Tally) : Output :=
  Output.line "" ++ Output.line (Style.bold.paint colored "Summary:")
    ++ Report.count colored .green tally.inserted
      (if mode = .preview then "would insert" else "inserted")
    ++ Report.count colored .yellow tally.alreadyApplied "already applied"
    ++ Report.count colored .red tally.failed "failed"

/-- What is said behind the last patch file: that it cannot be loaded, or else the summary. -/
def closing (visits : List Visit) : Output :=
  match visits.findSome? Visit.loadError? with
  | some e => Report.error e.message (some e.cause)
  | none => summary colored mode (.ofResults (attempted workspace mode visits))

/-- What a command comes to that gets to these patch files. -/
def completion (fs : FileSystem) (visits : List Visit) : Completion where
  status := if visits.all (Visit.isDone workspace mode) then 0 else 1
  output := opening colored workspace mode
    ++ Output.concat (visits.map (Visit.said colored verbose workspace mode diff))
    ++ closing colored workspace mode visits
  files := (visits.getLast?.map (Visit.after workspace mode)).getD fs

variable {colored verbose workspace mode diff}

/-- The summary reads how many patches there are of each kind, each on a line of its own. -/
theorem summary_eq (tally : Tally) :
    summary colored mode tally =
      { out := "\n" ++ Style.bold.paint colored "Summary:" ++ "\n" ++
          "  " ++ Style.green.paint colored (toString tally.inserted) ++ " " ++
            (if mode = .preview then "would insert" else "inserted") ++ "\n" ++
          "  " ++ Style.yellow.paint colored (toString tally.alreadyApplied) ++
            " already applied\n" ++
          "  " ++ Style.red.paint colored (toString tally.failed) ++ " failed\n" } := by
  simp only [summary, Report.count, Output.line, Output.mk_append_mk, String.append_assoc,
    String.append_empty]
  -- what is left differs only in where the labels are cut
  rfl

/-- A patch file is done, and the command goes on, or this is the end. -/
theorem applyFiles_cons (path : Path) (rest : List Path) (output : Output) (tally : Tally)
    (fs : FileSystem) :
    applyFiles colored verbose workspace mode diff (path :: rest) ⟨output, tally, fs⟩ =
      let visit : Visit := ⟨path, fs⟩
      let progress : Progress :=
        ⟨output ++ visit.said colored verbose workspace mode diff,
          ((visit.results workspace mode).map Prod.snd).foldl Tally.add tally,
          visit.after workspace mode⟩
      if visit.isDone workspace mode then
        applyFiles colored verbose workspace mode diff rest progress
      else
        ((match visit.loadError? with
          | some e => .error e
          | none => .ok ()), progress) := by
  cases hload : PatchFile.load fs path with
  | error e =>
    simp [applyFiles, Visit.isDone, Visit.said, Visit.results, Visit.after, Visit.loadError?, hload]
  | ok file =>
    simp only [applyFiles, Visit.isDone, Visit.said, Visit.results, Visit.after, Visit.loadError?,
      hload, Option.isNone_none, Bool.true_and, List.any_eq_not_all_not, Bool.not_not]
    cases (file.apply fs workspace mode).1.all fun result => result.2.isOk with
    | true => simp [Output.append_assoc]
    | false => simp [Output.append_assoc]

/-- Applying patch files is told by those that the command gets to. -/
theorem applyFiles_eq (paths : List Path) (output : Output) (tally : Tally) (fs : FileSystem) :
    let visits := visits workspace mode paths fs
    applyFiles colored verbose workspace mode diff paths ⟨output, tally, fs⟩ =
      ((match visits.findSome? Visit.loadError? with
        | some e => .error e
        | none => .ok ()),
        ⟨output ++ Output.concat (visits.map (Visit.said colored verbose workspace mode diff)),
          ((attempted workspace mode visits).map Prod.snd).foldl Tally.add tally,
          (visits.getLast?.map (Visit.after workspace mode)).getD fs⟩) := by
  induction paths generalizing output tally fs with
  | nil => simp [applyFiles, visits, attempted, Output.concat_nil]
  | cons path rest ih =>
    simp only [applyFiles_cons, visits]
    cases hdone : Visit.isDone workspace mode ⟨path, fs⟩ with
    | false =>
      simp only [Bool.false_eq_true, if_false, List.findSome?_cons, List.findSome?_nil]
      cases Visit.loadError? ⟨path, fs⟩ <;>
        simp [attempted, Output.concat_cons, Output.concat_nil]
    | true =>
      have hloaded : Visit.loadError? ⟨path, fs⟩ = none := by
        simp only [Visit.isDone, Bool.and_eq_true, Option.isNone_iff_eq_none] at hdone
        exact hdone.1
      simp only [if_true, ih, List.findSome?_cons, hloaded, List.map_cons, Output.concat_cons,
        attempted, List.flatMap_cons, List.map_append, List.foldl_append, Output.append_assoc,
        List.getLast?_cons]
      cases (visits workspace mode rest (Visit.after workspace mode ⟨path, fs⟩)).getLast? <;> rfl

/-- All patch files are done if all were loaded and no patch is counted as failed. -/
theorem all_isDone_iff {visits : List Visit} : visits.all (Visit.isDone workspace mode) ↔
    visits.findSome? Visit.loadError? = none ∧
      (Tally.ofResults (attempted workspace mode visits)).failed = 0 := by
  simp only [Tally.failed_ofResults, List.countP_eq_zero, attempted, List.mem_flatMap,
    List.findSome?_eq_none_iff, List.all_eq_true, Visit.isDone, Bool.and_eq_true,
    Option.isNone_iff_eq_none, Bool.not_eq_true', Bool.not_eq_false]
  constructor
  · intro h
    refine ⟨fun visit hvisit => (h visit hvisit).1, ?_⟩
    rintro result ⟨visit, hvisit, hresult⟩
    exact (h visit hvisit).2 result hresult
  · rintro ⟨hloaded, hok⟩ visit hvisit
    exact ⟨hloaded visit hvisit, fun result hresult => hok result ⟨visit, hvisit, hresult⟩⟩

theorem status_completion_eq_zero_iff {fs : FileSystem} {visits : List Visit} :
    (completion colored verbose workspace mode diff fs visits).status = 0 ↔
      ∀ visit ∈ visits, visit.isDone workspace mode := by
  simp [completion]

/-- Applying patch files comes to what is put together from those that the command gets to. -/
theorem apply_eq_completion (paths : List Path) (fs : FileSystem) :
    apply colored verbose workspace mode diff paths fs =
      completion colored verbose workspace mode diff fs (visits workspace mode paths fs) := by
  simp only [apply, completion, closing, applyFiles_eq]
  cases hloaded : (visits workspace mode paths fs).findSome? Visit.loadError? with
  | some e =>
    have hdone : ¬(visits workspace mode paths fs).all (Visit.isDone workspace mode) := by
      rw [all_isDone_iff, hloaded]
      simp
    simp only [hdone]
    rfl
  | none =>
    have hdone : (visits workspace mode paths fs).all (Visit.isDone workspace mode) ↔
        (Tally.ofResults
          (attempted workspace mode (visits workspace mode paths fs))).failed = 0 := by
      rw [all_isDone_iff, hloaded]
      simp
    simp only [hdone]
    rfl

/-- The patch files that a command gets to are the first of those that it is given. -/
theorem map_path_visits_prefix (paths : List Path) (fs : FileSystem) :
    (visits workspace mode paths fs).map Visit.path <+: paths := by
  induction paths generalizing fs with
  | nil => exact List.prefix_rfl
  | cons path rest ih =>
    rw [visits, List.map_cons, List.prefix_cons_inj]
    split
    next => exact ih _
    next => exact List.nil_prefix

/-- A command that gets all done to which it gets has got to all patch files. -/
theorem map_path_visits_of_done {paths : List Path} {fs : FileSystem}
    (h : ∀ visit ∈ visits workspace mode paths fs, visit.isDone workspace mode) :
    (visits workspace mode paths fs).map Visit.path = paths := by
  induction paths generalizing fs with
  | nil => rfl
  | cons path rest ih =>
    rw [visits, List.forall_mem_cons] at h
    rw [visits, List.map_cons]
    rw [if_pos h.1] at h ⊢
    rw [ih h.2]

/-! ## What is counted -/

/-- All patches that are attempted succeed, but perhaps the last. -/
theorem exists_attempted_eq (workspace : Path) (mode : Mode) (paths : List Path)
    (fs : FileSystem) :
    ∃ front last, attempted workspace mode (visits workspace mode paths fs) = front ++ last ∧
      (∀ result ∈ front, result.2.isOk) ∧ last.length ≤ 1 := by
  induction paths generalizing fs with
  | nil => exact ⟨[], [], rfl, by simp, by simp⟩
  | cons path rest ih =>
    rw [visits]
    split
    next hdone =>
      obtain ⟨front, last, hrest, hok, hlast⟩ := ih (Visit.after workspace mode ⟨path, fs⟩)
      refine ⟨Visit.results workspace mode ⟨path, fs⟩ ++ front, last, ?_, ?_, hlast⟩
      · rw [List.append_assoc, ← hrest]
        rfl
      · simp only [Visit.isDone, Bool.and_eq_true, List.all_eq_true] at hdone
        intro result hresult
        exact (List.mem_append.1 hresult).elim (hdone.2 result) (hok result)
    next =>
      simp only [attempted, List.flatMap_cons, List.flatMap_nil, List.append_nil, Visit.results]
      split
      next file _ =>
        rcases PatchFile.runAll_cases file.baseDirectory workspace mode file.patches fs with
          ⟨results, after, hall, hok, -⟩ |
            ⟨front, patch, others, e, results, after, hpatches, -, hok, -, hall⟩
        · exact ⟨results, [], by simp [PatchFile.apply, hall], hok, by simp⟩
        · refine ⟨results, [(patch.id, .error e)], ?_, hok, by simp⟩
          rw [PatchFile.apply, hpatches, hall]
      next => exact ⟨[], [], rfl, by simp, by simp⟩

/-- At most one patch fails. -/
theorem failed_tally_le_one (workspace : Path) (mode : Mode) (paths : List Path)
    (fs : FileSystem) :
    (Tally.ofResults (attempted workspace mode (visits workspace mode paths fs))).failed ≤ 1 := by
  obtain ⟨front, last, hall, hok, hlast⟩ := exists_attempted_eq workspace mode paths fs
  rw [Tally.failed_ofResults, hall, List.countP_append, List.countP_eq_zero.2 (by simpa using hok),
    Nat.zero_add]
  exact Nat.le_trans List.countP_le_length hlast

end Command

end Graft
