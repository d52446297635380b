import Graft.Edit.Run
import Graft.Proofs.FileSystem.CanonicalPath

/-!
# Reading and committing

What is read of a file, and what a commit does with it, in terms of the location that a path leads
to.

* `FileSystem.readText_eq_ok_iff`: a path reads to the text that is stored where it leads.
* `Snapshot.commit_eq_ok_iff`: a commit that succeeds replaces the content of the file at the end of
  the path, and the bytes that it replaces have the fingerprint of the snapshot.
* `Snapshot.commit_of_read`: right after reading, a commit succeeds unless the canonical path is too
  long to be opened.
-/

namespace Graft

namespace FileSystem

variable {fs : FileSystem} {location : Location} {path : Path}

/-- A file stands where content is. -/
theorem contentAt_eq_ok_iff {bytes : ByteArray} :
    fs.contentAt location = .ok bytes ↔ ∃ mode, fs.lookup location = some (.file bytes mode) := by
  unfold contentAt
  split
  next content mode h => simp [h]
  next h => simp [h]
  next target h => simp [h]
  next h => simp [h]

/-- A path reads to the bytes that are stored where it leads. -/
theorem readBytes_eq_ok_iff {bytes : ByteArray} :
    fs.readBytes path = .ok bytes ↔
      ∃ location, fs.locate path = .ok location ∧ fs.contentAt location = .ok bytes := by
  unfold readBytes
  cases fs.locate path with
  | error e => simp [bind, Except.bind]
  | ok location => simp [bind, Except.bind]

/-- A path reads to the text that is stored where it leads. -/
theorem readText_eq_ok_iff {text : Text} :
    fs.readText path = .ok text ↔ fs.readBytes path = .ok text.bytes := by
  unfold readText
  -- what is stored is text exactly when it is the stored form of a text
  cases hbytes : fs.readBytes path with
  | error e => simp
  | ok bytes =>
    have hiff : Text.ofBytes? bytes = some text ↔ bytes = text.bytes := Text.ofBytes?_eq_some_iff
    simp only [Except.ok.injEq, ← hiff]
    cases Text.ofBytes? bytes with
    | none => simp
    | some other => simp

/-- A path reads to the text that the file at its end holds. -/
theorem readText_eq_ok_iff_contentAt {text : Text} :
    fs.readText path = .ok text ↔
      ∃ location, fs.locate path = .ok location ∧ fs.contentAt location = .ok text.bytes := by
  rw [readText_eq_ok_iff, readBytes_eq_ok_iff]

/-- `after` is `fs` with a new text in the one file that a path leads to; the mode of the file, what
stands at every other location and where every path leads are the same. -/
structure Rewritten (fs after : FileSystem) (path : Path) (old new : Text) : Prop where
  /-- The path read to the old text. -/
  readText_before : fs.readText path = .ok old
  /-- The path reads to the new text. -/
  readText_after : after.readText path = .ok new
  /-- One file got other bytes. -/
  lookup_after : ∃ location mode, fs.locate path = .ok location ∧
    fs.lookup location = some (.file old.bytes mode) ∧
    ∀ other, after.lookup other =
      if other = location then some (.file new.bytes mode) else fs.lookup other
  /-- Every path leads where it led. -/
  resolve_after : ∀ other, after.resolve other = fs.resolve other
  /-- Relative paths are read from the same directory. -/
  cwd_after : after.cwd = fs.cwd

/-- Other bytes in the file that a path opens rewrite that file. -/
theorem rewritten_setContent {old new : Text} (hold : fs.readText path = .ok old)
    (hlocate : fs.locate path = .ok location) :
    fs.Rewritten (fs.setContent location new.bytes) path old new := by
  obtain ⟨location', hlocate', hcontent⟩ := readText_eq_ok_iff_contentAt.1 hold
  obtain rfl : location' = location := Except.ok.inj (hlocate'.symm.trans hlocate)
  obtain ⟨mode, hnode⟩ := contentAt_eq_ok_iff.1 hcontent
  have hlookup : ∀ other, (fs.setContent location' new.bytes).lookup other =
      if other = location' then some (.file new.bytes mode) else fs.lookup other := by
    intro other
    rw [lookup_setContent]
    by_cases hother : other = location'
    · simp [hother, hnode, Node.withContent]
    · simp [hother]
  refine ⟨hold, ?_, ⟨location', mode, hlocate, hnode, hlookup⟩, fun other => ?_, rfl⟩
  · rw [readText_eq_ok_iff_contentAt]
    refine ⟨location', by rw [locate_setContent, hlocate], contentAt_eq_ok_iff.2 ⟨mode, ?_⟩⟩
    simp [hlookup]
  · exact resolve_setContent new.bytes other

/-- What is opened by the canonical path of a file that was read is what the path itself opens. -/
theorem locate_of_reopen {text : Text} (htext : fs.readText path = .ok text)
    (h : fs.reopen path = .ok location) : fs.locate path = .ok location := by
  obtain ⟨location', hlocate, -⟩ := readText_eq_ok_iff_contentAt.1 htext
  rcases reopen_eq_or_nameTooLong (resolve_of_locate hlocate) with hopen | hopen
  · rw [hopen] at h
    cases h
    exact hlocate
  · rw [hopen] at h
    cases h

end FileSystem

namespace Snapshot

variable {fs after : FileSystem} {path : Path} {snapshot : Snapshot}

/-- A snapshot is read of a path that reads to a text. -/
theorem read_eq_ok_iff :
    Snapshot.read fs path = .ok snapshot ↔
      ∃ text, fs.readText path = .ok text ∧ snapshot = .ofText path text := by
  unfold Snapshot.read
  cases fs.readText path with
  | error e => simp
  | ok text => simp [eq_comm]

/-- Nothing is read of a path that does not read to a text. -/
theorem read_eq_error {e : Failure} (h : Snapshot.read fs path = .error e) :
    ∃ cause, e = .unreadable path cause := by
  unfold Snapshot.read at h
  split at h
  · cases h
  next cause _ =>
    cases h
    exact ⟨cause, rfl⟩

/-- A commit that succeeds replaces the content of the file at the end of the path, and the bytes
that it replaces have the fingerprint of the snapshot. -/
theorem commit_eq_ok_iff {content : Text} :
    snapshot.commit fs content = .ok after ↔
      ∃ location bytes, fs.resolve snapshot.path = .ok location ∧
        fs.reopen snapshot.path = .ok location ∧ fs.contentAt location = .ok bytes ∧
        snapshot.isUnchanged bytes ∧ after = fs.setContent location content.bytes := by
  unfold commit FileSystem.reopen
  cases htarget : fs.canonicalize snapshot.path with
  | error e => simp [bind, Except.bind]
  | ok target =>
    obtain ⟨location, hstands, hresolve, rfl⟩ := FileSystem.resolve_of_canonicalize htarget
    -- the canonical path opens the location that the path itself leads to, if it opens anything
    rw [hresolve]
    have hopen := FileSystem.locate_path hstands
    split at hopen
    · cases hcontent : fs.contentAt location with
      | error e => simp [FileSystem.readBytes, hopen, hcontent, bind, Except.bind]
      | ok bytes =>
        by_cases hsame : snapshot.isUnchanged bytes
        · simp only [FileSystem.readBytes, FileSystem.replace, hopen, hcontent, hsame, bind,
            Except.bind, Except.map, if_true, Except.ok.injEq]
          constructor
          · rintro rfl
            exact ⟨location, bytes, rfl, rfl, hcontent, hsame, rfl⟩
          · rintro ⟨_, _, rfl, -, -, -, rfl⟩
            rfl
        · simp [FileSystem.readBytes, hopen, hcontent, hsame, bind, Except.bind]
    · simp [FileSystem.readBytes, hopen, bind, Except.bind]

/-- Right after reading, a commit succeeds unless the canonical path is too long to be opened. -/
theorem commit_of_read (hread : Snapshot.read fs path = .ok snapshot) (content : Text) :
    snapshot.commit fs content =
      match fs.reopen path with
      | .ok location => .ok (fs.setContent location content.bytes)
      | .error _ => .error (.unwritable path .nameTooLong) := by
  obtain ⟨text, htext, rfl⟩ := read_eq_ok_iff.1 hread
  obtain ⟨location, hlocate, hcontent⟩ := FileSystem.readText_eq_ok_iff_contentAt.1 htext
  have hresolve := FileSystem.resolve_of_locate hlocate
  -- the file is where it was, so the re-check passes if the canonical path can be opened
  rcases FileSystem.reopen_eq_or_nameTooLong hresolve with hopen | hopen
  · rw [hopen, commit_eq_ok_iff]
    exact ⟨location, text.bytes, hresolve, hopen, hcontent, isUnchanged_ofText path text, rfl⟩
  · rw [hopen]
    unfold FileSystem.reopen at hopen
    have hpath : (ofText path text).path = path := rfl
    unfold commit
    rw [hpath]
    cases htarget : fs.canonicalize path with
    | error e =>
      rw [htarget] at hopen
      cases hopen
      rfl
    | ok target =>
      have htoo : fs.locate target = .error .nameTooLong := by
        rw [htarget] at hopen
        exact hopen
      simp [FileSystem.readBytes, htoo, bind, Except.bind, recheckFailure]

end Snapshot

end Graft
