import Graft.Proofs.Edit.Commit

/-!
# Commits after a change

A commit looks at the file once more. What it says when the file is no longer what was read depends
on how the path, made canonical first, fails to lead to the old bytes.

* `FileSystem.reread_eq_or_nameTooLong`: what is read when a path is made canonical first is what
  the path itself reads to, unless the way there is too long.
* `FileSystem.mem_obstacles_of_readBytes`: what can be in the way.
* `Snapshot.commit_of_changed`: a commit after a change replaces nothing; it reports the change
  where other bytes are read or nothing is found, and a failed write where something is in the way.
-/

namespace Graft

namespace FileSystem

variable {fs earlier later : FileSystem} {fits : Location → Bool} {here location : Location}
  {path : Path} {e : FileError}

/-- The bytes that are read when a path is made canonical first. -/
def reread (fs : FileSystem) (path : Path) : Except FileError ByteArray :=
  fs.reopen path >>= fs.contentAt

/-- A path that could be opened once reads to the same when it is made canonical first, unless the
way there is too long. -/
theorem reread_eq_or_nameTooLong (hlocate : earlier.locate path = .ok location)
    (later : FileSystem) :
    later.reread path = later.readBytes path ∨ later.reread path = .error .nameTooLong := by
  have hopen : later.reopen path = later.locate path ∨
      later.reopen path = .error .nameTooLong := by
    rw [locate_eq_resolve hlocate]
    cases hresolve : later.resolve path with
    | ok location' => exact reopen_eq_or_nameTooLong hresolve
    | error e =>
      -- a path that leads nowhere has no canonical path
      unfold reopen
      rcases canonicalize_eq later path with heq | heq
      · rw [heq, hresolve]
        exact .inl rfl
      · rw [heq]
        exact .inr rfl
  unfold reread readBytes
  rcases hopen with heq | heq
  · exact .inl (by rw [heq])
  · exact .inr (by rw [heq]; rfl)

/-! ## What can be in the way -/

/-- What can be in the way of walking to a file and reading it. Paths that no name can be and bytes
that are no text are not among it. -/
def obstacles : List FileError :=
  [.notFound, .notADirectory, .isADirectory, .tooManyLinks, .nameTooLong]

theorem mem_obstacles_of_enter {name : String} (h : fs.enter fits here name = .error e) :
    e ∈ obstacles := by
  -- one case for each way in which a name leads nowhere
  unfold enter at h
  split at h
  · cases h
    decide
  · split at h
    · split at h
      · cases h
      split at h
      · cases h
      split at h
      · cases h
        decide
      split at h
      · cases h
        decide
      · cases h
    · cases h
      decide
    · cases h
      decide

theorem mem_obstacles_of_walkFrom
    {follow : Location → List String → Except FileError Location}
    (hfollow : ∀ from' names, follow from' names = .error e → e ∈ obstacles) {names : List String}
    (h : fs.walkFrom fits follow here names = .error e) : e ∈ obstacles := by
  induction names generalizing here with
  | nil => cases h
  | cons name rest ih =>
    simp only [walkFrom] at h
    split at h
    next => exact ih h
    next => exact hfollow _ _ h
    next hpassage =>
      cases h
      exact mem_obstacles_of_enter hpassage

theorem mem_obstacles_of_walk {links : Nat} {names : List String}
    (h : fs.walk fits links here names = .error e) : e ∈ obstacles := by
  induction links generalizing here names with
  | zero =>
    refine mem_obstacles_of_walkFrom (fun _ _ hfollow => ?_) h
    cases hfollow
    decide
  | succ links ih => exact mem_obstacles_of_walkFrom (fun _ _ => ih) h

/-- A path that could be opened once has no null character. -/
theorem null_not_mem_of_locate (h : fs.locate path = .ok location) : '\x00' ∉ path.toList := by
  intro hnull
  simp [locate, resolve, resolveWithin, hnull] at h

/-- What can be in the way of reading a path that could be opened once. -/
theorem mem_obstacles_of_readBytes (hlocate : earlier.locate path = .ok location)
    (h : later.readBytes path = .error e) : e ∈ obstacles := by
  have hnull := null_not_mem_of_locate hlocate
  rw [readBytes, locate_eq_resolve hlocate later] at h
  cases hresolve : later.resolve path with
  | ok location' =>
    rw [hresolve] at h
    change later.contentAt location' = .error e at h
    unfold contentAt at h
    split at h
    · cases h
    all_goals
      cases h
      decide
  | error e' =>
    rw [hresolve] at h
    cases h
    simp only [resolve, resolveWithin, List.contains_iff_mem, hnull, if_false] at hresolve
    split at hresolve
    · cases hresolve
      decide
    · exact mem_obstacles_of_walk hresolve

end FileSystem

namespace Snapshot

variable {earlier later : FileSystem} {path : Path} {snapshot : Snapshot}

/-- A commit fails where nothing can be read by the canonical path, and where that reads to bytes
with another fingerprint. -/
theorem commit_eq_error {fs : FileSystem}
    (h : ∀ bytes, fs.reread snapshot.path = .ok bytes → ¬snapshot.isUnchanged bytes)
    (content : Text) :
    snapshot.commit fs content = .error
      (match fs.reread snapshot.path with
        | .ok _ => .changedMeanwhile snapshot.path
        | .error e => recheckFailure snapshot.path e) := by
  have hreread : fs.reread snapshot.path = fs.canonicalize snapshot.path >>= fs.readBytes := by
    unfold FileSystem.reread FileSystem.reopen FileSystem.readBytes
    cases fs.canonicalize snapshot.path <;> rfl
  rw [hreread] at h ⊢
  unfold commit
  cases htarget : fs.canonicalize snapshot.path with
  | error e => rfl
  | ok target =>
    have hbind : (Except.ok target >>= fs.readBytes) = fs.readBytes target := rfl
    rw [htarget, hbind] at h
    rw [hbind]
    cases hbytes : fs.readBytes target with
    | error e => simp only [hbytes]
    | ok bytes =>
      have hdiffers : snapshot.isUnchanged bytes = false := Bool.eq_false_iff.2 (h bytes hbytes)
      simp only [hbytes, hdiffers, Bool.false_eq_true, if_false]

/-- After a change, whatever it was, a commit fails and replaces nothing. It reports the change
where the path, made canonical, reads to other bytes or to nothing. Where something is in the way,
it reports a failed write: something on the way is no directory, a directory stands at the end,
links lead on and on, or the way has become too long. -/
theorem commit_of_changed (hread : Snapshot.read earlier path = .ok snapshot)
    (hchanged : ∀ bytes, later.readBytes path = .ok bytes → ¬snapshot.isUnchanged bytes)
    (content : Text) :
    (later.reread path = later.readBytes path ∨ later.reread path = .error .nameTooLong) ∧
    ∃ e, snapshot.commit later content = .error e ∧ e.path = path ∧
      match later.reread path with
      | .ok _ | .error .notFound => e = .changedMeanwhile path ∧ e.leavesFile
      | .error cause => e = .unwritable path cause ∧ ¬e.leavesFile ∧
          cause ∈ [.notADirectory, .isADirectory, .tooManyLinks, .nameTooLong] := by
  obtain ⟨text, htext, hsnapshot⟩ := read_eq_ok_iff.1 hread
  obtain ⟨location, hlocate, -⟩ := FileSystem.readText_eq_ok_iff_contentAt.1 htext
  obtain rfl : snapshot.path = path := by rw [hsnapshot]; rfl
  have hreread := FileSystem.reread_eq_or_nameTooLong hlocate later
  -- what is read again is read by the path too, so it has another fingerprint
  have hdiffers : ∀ bytes, later.reread snapshot.path = .ok bytes →
      ¬snapshot.isUnchanged bytes := by
    intro bytes hbytes
    rcases hreread with heq | heq
    · exact hchanged bytes (heq ▸ hbytes)
    · rw [heq] at hbytes
      cases hbytes
  refine ⟨hreread, _, commit_eq_error hdiffers content, ?_⟩
  cases hresult : later.reread snapshot.path with
  | ok bytes => exact ⟨rfl, rfl, rfl⟩
  | error cause =>
    have hcause : cause ∈ FileSystem.obstacles := by
      rcases hreread with heq | heq
      · exact FileSystem.mem_obstacles_of_readBytes hlocate (heq ▸ hresult)
      · rw [heq] at hresult
        cases hresult
        decide
    cases cause with
    | notFound => exact ⟨rfl, rfl, rfl⟩
    | notADirectory | isADirectory | tooManyLinks | nameTooLong =>
      exact ⟨rfl, rfl, by simp [recheckFailure, Failure.leavesFile], by decide⟩
    | nullInName | notText => exact absurd hcause (by decide)

/-- A file in the place of its directory, a directory in the place of the file, and a link to itself
count as failed writes; a file that is gone does not. -/
theorem commit_of_changed_in_four_ways :
    let fs (nodes : List (Location × Node)) : FileSystem := ⟨nodes, []⟩
    let file : Node := .file (Text.bytes ['a', '\n']) 0o644
    let snapshot : Snapshot := .ofText "d/t" ['a', '\n']
    Snapshot.read (fs [(["d"], .directory), (["d", "t"], file)]) "d/t" = .ok snapshot ∧
      snapshot.commit (fs [(["d"], .directory)]) ['b'] = .error (.changedMeanwhile "d/t") ∧
      snapshot.commit (fs [(["d"], file)]) ['b'] = .error (.unwritable "d/t" .notADirectory) ∧
      snapshot.commit (fs [(["d"], .directory), (["d", "t"], .directory)]) ['b'] =
        .error (.unwritable "d/t" .isADirectory) ∧
      snapshot.commit (fs [(["d"], .directory), (["d", "t"], .link "t")]) ['b'] =
        .error (.unwritable "d/t" .tooManyLinks) := by
  intro fs file snapshot
  have hread : Snapshot.read (fs [(["d"], .directory), (["d", "t"], file)]) "d/t" =
      .ok snapshot := by
    decide +kernel
  -- nothing is read any more, so the snapshot is out of date
  have hcommit : ∀ nodes cause, (fs nodes).readBytes "d/t" = .error cause ∧
      (fs nodes).reread "d/t" = .error cause →
        snapshot.commit (fs nodes) ['b'] = .error (recheckFailure "d/t" cause) := by
    rintro nodes cause ⟨hgone, hagain⟩
    have hchanged : ∀ bytes, (fs nodes).readBytes "d/t" = .ok bytes →
        ¬snapshot.isUnchanged bytes := by
      simp [hgone]
    obtain ⟨-, e, he, -, hreported⟩ := commit_of_changed hread hchanged ['b']
    rw [hagain] at hreported
    rw [he]
    cases cause <;> simp_all [recheckFailure]
  exact ⟨hread, hcommit [(["d"], .directory)] .notFound (by decide +kernel),
    hcommit [(["d"], file)] .notADirectory (by decide +kernel),
    hcommit [(["d"], .directory), (["d", "t"], .directory)] .isADirectory (by decide +kernel),
    hcommit [(["d"], .directory), (["d", "t"], .link "t")] .tooManyLinks (by decide +kernel)⟩

end Snapshot

end Graft
