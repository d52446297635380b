import Graft.Proofs.Edit.Commit

/-!
# What a run changes

* `Edit.run_apply_frame`: a run that does not insert changes nothing, one that inserts changes the
  content of the file at the end of the path and nothing else, and a preview foretells what a run
  comes to.
-/

namespace Graft

/-- The outcome with the block counted as written. -/
def Outcome.asWritten : Outcome → Outcome
  | inserted file line inserted' matchCount _ before after =>
    inserted file line inserted' matchCount true before after
  | outcome => outcome

namespace Edit

variable {edit : Edit} {fs : FileSystem} {path : Path} {snapshot : Snapshot}

/-- A preview of an insertion. -/
theorem run_preview_of_insert {insertion : Insertion}
    (hread : Snapshot.read fs path = .ok snapshot)
    (hplan : edit.plan snapshot = .ok (.insert insertion)) :
    edit.run fs path .preview = (.ok (outcome snapshot insertion false), fs) := by
  simp [run, hread, hplan]

/-- An insertion replaces the content of the file that is opened by the canonical path. -/
theorem run_apply_of_insert {insertion : Insertion}
    (hread : Snapshot.read fs path = .ok snapshot)
    (hplan : edit.plan snapshot = .ok (.insert insertion)) :
    edit.run fs path .apply =
      match fs.reopen path with
      | .ok location =>
        (.ok (outcome snapshot insertion true), fs.setContent location insertion.text.bytes)
      | .error _ => (.error (.unwritable path .nameTooLong), fs) := by
  simp only [run, hread, hplan, Snapshot.commit_of_read hread]
  cases fs.reopen path <;> rfl

/-- A run fails or finds the block before there is anything to write, whatever the mode, or there is
a planned insertion. -/
theorem run_cases (edit : Edit) (fs : FileSystem) (path : Path) :
    (∃ e, (∀ other, e ≠ .changedMeanwhile other) ∧
      ∀ mode, edit.run fs path mode = (.error e, fs)) ∨
    (∃ line, ∀ mode, edit.run fs path mode = (.ok (.alreadyApplied path line), fs)) ∨
    ∃ text insertion, fs.readText path = .ok text ∧
      Snapshot.read fs path = .ok (.ofText path text) ∧
      edit.plan (.ofText path text) = .ok (.insert insertion) := by
  cases hread : Snapshot.read fs path with
  | error e =>
    obtain ⟨cause, rfl⟩ := Snapshot.read_eq_error hread
    exact .inl ⟨.unreadable path cause, by simp, fun mode => by simp [run, hread]⟩
  | ok snapshot =>
    obtain ⟨text, htext, rfl⟩ := Snapshot.read_eq_ok_iff.1 hread
    cases hplan : edit.plan (.ofText path text) with
    | error e =>
      refine .inl ⟨e, fun other => ?_, fun mode => by simp [run, hread, hplan]⟩
      rcases plan_eq_error_iff.1 hplan with ⟨-, rfl⟩ | ⟨-, -, -, rfl⟩ <;> simp
    | ok verdict =>
      cases verdict with
      | alreadyPresent line => exact .inr (.inl ⟨line, fun mode => by simp [run, hread, hplan]⟩)
      | insert insertion => exact .inr (.inr ⟨text, insertion, htext, rfl, hplan⟩)

/-- A run that does not insert changes nothing, and one that inserts changes the content of the file
at the end of the path and nothing else. A preview changes nothing and comes to what a run comes to,
unless there is a block to insert and the canonical path is too long to be opened; it never is where
everything can be opened by its path from the root. -/
theorem run_apply_frame (edit : Edit) (fs : FileSystem) (path : Path) :
    (match edit.run fs path .apply with
      | (.ok (.inserted file _ _ _ written before new), after) =>
        file = path ∧ written = true ∧ fs.Rewritten after path before new
      | (_, after) => after = fs) ∧
    (edit.run fs path .preview).2 = fs ∧
    (edit.run fs path .apply).1 =
      (match (edit.run fs path .preview).1, fs.reopen path with
        | .ok (.inserted ..), .error _ => .error (.unwritable path .nameTooLong)
        | result, _ => result.map Outcome.asWritten) ∧
    ((∀ location node, fs.lookup location = some node → FileSystem.isOpenable location) →
      (edit.run fs path .apply).1 = (edit.run fs path .preview).1.map Outcome.asWritten) ∧
    ∀ other, (edit.run fs path .apply).1 ≠ .error (.changedMeanwhile other) := by
  rcases run_cases edit fs path with
    ⟨e, he, hrun⟩ | ⟨line, hrun⟩ | ⟨text, insertion, htext, hread, hplan⟩
  · rw [hrun, hrun]
    exact ⟨rfl, rfl, rfl, fun _ => rfl, fun other => by simpa using he other⟩
  · rw [hrun, hrun]
    exact ⟨rfl, rfl, rfl, fun _ => rfl, fun other => by simp⟩
  · rw [run_apply_of_insert hread hplan, run_preview_of_insert hread hplan]
    cases hopen : fs.reopen path with
    | error e =>
      refine ⟨rfl, rfl, rfl, fun hfits => ?_, fun other => by simp⟩
      -- a file that was read is opened again, if nothing is too long
      obtain ⟨location, hlocate, -⟩ := FileSystem.readText_eq_ok_iff_contentAt.1 htext
      have hagain := FileSystem.reopen_of_fits hfits (FileSystem.resolve_of_locate hlocate)
      rw [hopen] at hagain
      cases hagain
    | ok location =>
      refine ⟨⟨rfl, rfl, ?_⟩, rfl, rfl, fun _ => rfl, fun other => by simp⟩
      rw [Snapshot.text_ofText]
      exact FileSystem.rewritten_setContent htext (FileSystem.locate_of_reopen htext hopen)

/-- A run on a link rewrites the file that the link leads to. -/
theorem run_apply_on_link :
    let edit : Edit := ⟨⟨[⟨0, .equals ['a']⟩]⟩, ⟨[['N', '\n']]⟩, .after, true⟩
    let fs : FileSystem :=
      ⟨[(["l"], .link "f"), (["f"], .file (Text.bytes ['a', '\n']) 0o600)], []⟩
    (edit.run fs "l" .apply).1 =
        .ok (.inserted "l" 2 1 1 true ['a', '\n'] ['a', '\n', 'N', '\n']) ∧
      fs.Rewritten (edit.run fs "l" .apply).2 "l" ['a', '\n'] ['a', '\n', 'N', '\n'] := by
  intro edit fs
  have hresult : (edit.run fs "l" .apply).1 =
      .ok (.inserted "l" 2 1 1 true ['a', '\n'] ['a', '\n', 'N', '\n']) := by
    decide +kernel
  refine ⟨hresult, ?_⟩
  obtain ⟨hframe, -⟩ := run_apply_frame edit fs "l"
  cases hrun : edit.run fs "l" .apply with
  | mk result after =>
    rw [hrun] at hresult hframe
    obtain rfl : result = _ := hresult
    exact hframe.2.2

end Edit

namespace FileSystem

/-- Directories named alike, each in the one before, with a file in the innermost, which is the
working directory. -/
def tower (name : String) (height : Nat) (file : String) (content : ByteArray) : FileSystem where
  nodes := (List.range height).map (fun n => (List.replicate (n + 1) name, Node.directory)) ++
    [(List.replicate height name ++ [file], .file content 0o644)]
  cwd := List.replicate height name

variable {name file : String} {height : Nat} {content : ByteArray}

/-- A repeated letter takes a byte each time. -/
theorem utf8ByteSize_replicate (n : Nat) :
    (String.ofList (List.replicate n 'd')).utf8ByteSize = n := by
  induction n with
  | zero => decide
  | succ n ih =>
    have hone : (String.singleton 'd').utf8ByteSize = 1 := by decide
    rw [List.replicate_succ, String.ofList_cons, String.utf8ByteSize_append, ih, hone, Nat.add_comm]

/-- A letter repeated often enough, but not too often, is a name. -/
theorem isName_replicate {n : Nat} (hlow : 2 < n) (hhigh : n ≤ maxNameSize) :
    isName (String.ofList (List.replicate n 'd')) := by
  have hother : ∀ other : String, other.length < n →
      String.ofList (List.replicate n 'd') ≠ other := by
    rintro other hlt rfl
    simp at hlt
  have hempty : (String.ofList (List.replicate n 'd')).isEmpty = false := by
    rw [Bool.eq_false_iff, Ne, String.isEmpty_iff]
    exact hother "" (by simp; omega)
  have hdot := hother "." (Nat.lt_trans (by decide) hlow)
  have hdots := hother ".." hlow
  have habsent : ∀ c, c ≠ 'd' → (List.replicate n 'd').contains c = false := by
    intro c hc
    rw [Bool.eq_false_iff, Ne, List.contains_iff_mem]
    exact fun hin => hc (List.eq_of_mem_replicate hin)
  have hslash := habsent '/' (by decide)
  have hnull := habsent '\x00' (by decide)
  simp only [isName, hempty, hdot, hdots, utf8ByteSize_replicate, String.toList_ofList, hhigh,
    hslash, hnull, ne_eq, not_false_eq_true, decide_true, Bool.not_false, Bool.and_self]

/-- The path of the file on top of a tower gets longer with each directory. -/
theorem utf8ByteSize_path_tower (name file : String) (height : Nat) :
    (Location.path (List.replicate height name ++ [file])).utf8ByteSize =
      height * (name.utf8ByteSize + 1) + (file.utf8ByteSize + 1) := by
  have hslash : "/".utf8ByteSize = 1 := by decide
  induction height with
  | zero => simp [Location.path, hslash, Nat.add_comm]
  | succ height ih =>
    rw [List.replicate_succ, List.cons_append, Location.path_cons (by simp),
      String.utf8ByteSize_append, String.utf8ByteSize_append, ih, hslash, Nat.succ_mul]
    omega

/-- The innermost directory of a tower is the working directory. -/
@[simp]
theorem cwd_tower : (tower name height file content).cwd = List.replicate height name :=
  rfl

/-- Directories stand all the way up a tower. -/
theorem lookup_tower_directory (hname : isName name) {n : Nat} (hn : n ≤ height) :
    (tower name height file content).lookup (List.replicate n name) = some .directory := by
  induction n with
  | zero => exact lookup_nil _
  | succ n ih =>
    have hfloors : ∀ floors : List Nat, n ∈ floors →
        (floors.map fun n => (List.replicate (n + 1) name, Node.directory)).lookup
          (List.replicate (n + 1) name) = some .directory := by
      intro floors hmem
      induction floors with
      | nil => cases hmem
      | cons floor floors ih =>
        rw [List.map_cons, List.lookup_cons]
        split
        · rfl
        next hother =>
          refine ih ((List.mem_cons.1 hmem).resolve_left ?_)
          rintro rfl
          simp at hother
    rw [List.replicate_succ', lookup_concat, if_pos ⟨ih (by omega), hname⟩, ← List.replicate_succ']
    simp [tower, List.lookup_append, hfloors _ (List.mem_range.2 hn)]

/-- The file stands on top of a tower, unless it has the name of the directories. -/
theorem lookup_tower_file (hname : isName name) (hfile : isName file) (hne : file ≠ name) :
    (tower name height file content).lookup (List.replicate height name ++ [file]) =
      some (.file content 0o644) := by
  rw [lookup_concat, if_pos ⟨lookup_tower_directory hname (Nat.le_refl height), hfile⟩]
  have hnone :
      ((List.range height).map fun n => (List.replicate (n + 1) name, Node.directory)).lookup
        (List.replicate height name ++ [file]) = none := by
    rw [List.lookup_eq_none_iff]
    intro entry hentry
    obtain ⟨n, -, rfl⟩ := List.mem_map.1 hentry
    rw [bne_iff_ne]
    intro (heq : List.replicate height name ++ [file] = List.replicate (n + 1) name)
    have hmem : file ∈ List.replicate (n + 1) name := by
      rw [← heq]
      simp
    exact hne (List.eq_of_mem_replicate hmem)
  simp [tower, List.lookup_append, hnone]

/-- The file on top of a tower is opened by its name. -/
theorem locate_tower_file (hname : isName name) (hfile : isName file) (hne : file ≠ name)
    (hsteps : Path.steps file = [file]) (habs : Path.isAbsolute file = false) :
    (tower name height file content).locate file = .ok (List.replicate height name ++ [file]) := by
  have hstands : (tower name height file content).Stands (List.replicate height name ++ [file]) :=
    ⟨_, lookup_tower_file hname hfile hne, by simp⟩
  have hsize : file.utf8ByteSize ≤ maxPathSize := by
    simp only [isName, Bool.and_eq_true, decide_eq_true_eq] at hfile
    exact Nat.le_trans hfile.2 (by decide)
  have hempty : file.isEmpty = false ∧ '\x00' ∉ file.toList := by
    simp_all [isName]
  have hwalk : (tower name height file content).walk (fun _ => true) maxLinks
      (List.replicate height name) [file] = .ok (List.replicate height name ++ [file]) :=
    walkFrom_of_stands hstands
  simpa [locate, resolve, resolveWithin, Nat.not_lt.2 hsize, hempty, habs, hsteps] using hwalk

/-- Nothing is opened by the canonical path of a file that stands too high. -/
theorem reopen_tower_file
    (hsize : maxPathSize < height * (name.utf8ByteSize + 1) + (file.utf8ByteSize + 1))
    (hfile : isName file) (hsteps : Path.steps file = [file])
    (habs : Path.isAbsolute file = false) :
    (tower name height file content).reopen file = .error .nameTooLong := by
  have hself : file ≠ "." ∧ file ≠ ".." ∧ file.isEmpty = false ∧ '\x00' ∉ file.toList := by
    simp_all [isName]
  have hfits : isOpenable (List.replicate height name ++ [file]) = false := by
    rw [isOpenable, utf8ByteSize_path_tower, decide_eq_false_iff_not]
    exact Nat.not_le.2 hsize
  have henter : (tower name height file content).enter isOpenable (List.replicate height name)
      file = .error .nameTooLong := by
    simp [enter, hself, hfits]
  have hwalk : (tower name height file content).walk isOpenable maxLinks
      (List.replicate height name) [file] = .error .nameTooLong := by
    simp only [maxLinks, walk, walkFrom, henter]
  have hcanonical : (tower name height file content).canonicalize file = .error .nameTooLong := by
    simp [canonicalize, resolveWithin, hself, habs, hsteps, hwalk, Except.map]
  simp [reopen, hcanonical, bind, Except.bind]

end FileSystem

namespace Edit

/-- Where the path from the root is too long to be opened, a preview foretells an insertion that
fails. -/
theorem run_on_tower :
    let edit : Edit := ⟨⟨[⟨0, .equals ['a']⟩]⟩, ⟨[['N', '\n']]⟩, .after, true⟩
    let fs :=
      FileSystem.tower (String.ofList (List.replicate 250 'd')) 17 "t" (Text.bytes ['a', '\n'])
    (edit.run fs "t" .preview).1 =
        .ok (.inserted "t" 2 1 1 false ['a', '\n'] ['a', '\n', 'N', '\n']) ∧
      edit.run fs "t" .apply = (.error (.unwritable "t" .nameTooLong), fs) := by
  intro edit fs
  have hname : FileSystem.isName (String.ofList (List.replicate 250 'd')) :=
    FileSystem.isName_replicate (by decide) (by decide)
  have hfile : FileSystem.isName "t" := by decide
  have hne : "t" ≠ String.ofList (List.replicate 250 'd') := by
    intro heq
    have hsize : "t".utf8ByteSize = 250 := by rw [heq, FileSystem.utf8ByteSize_replicate]
    exact absurd hsize (by decide)
  have hsteps : Path.steps "t" = ["t"] := by decide
  have habs : Path.isAbsolute "t" = false := by decide
  have htext : fs.readText "t" = .ok ['a', '\n'] := by
    rw [FileSystem.readText_eq_ok_iff_contentAt]
    exact ⟨_, FileSystem.locate_tower_file hname hfile hne hsteps habs,
      FileSystem.contentAt_eq_ok_iff.2 ⟨_, FileSystem.lookup_tower_file hname hfile hne⟩⟩
  have hread : Snapshot.read fs "t" = .ok (.ofText "t" ['a', '\n']) :=
    Snapshot.read_eq_ok_iff.2 ⟨_, htext, rfl⟩
  have hplan : edit.plan (.ofText "t" ['a', '\n']) =
      .ok (.insert ⟨0, 1, 1, 1, [['a', '\n'], ['N', '\n']]⟩) := by
    decide +kernel
  have hopen : fs.reopen "t" = .error .nameTooLong := by
    refine FileSystem.reopen_tower_file ?_ hfile hsteps habs
    rw [FileSystem.utf8ByteSize_replicate]
    decide
  constructor
  · rw [run_preview_of_insert hread hplan]
    rfl
  · rw [run_apply_of_insert hread hplan, hopen]

end Edit

end Graft
