import Graft.Proofs.Edit.Run
import Mathlib.Data.Set.Function
import Mathlib.Logic.Function.Basic

/-!
# Runs that interleave

Any number of runs on one path, each of which reads, plans and commits in steps of its own, with
anything done to the files by others in between. A commit looks at the file and replaces it in one
step.

* `Known`: what a run holds was read of the path at a state that occurred, and planned on that.
* `run_of_commit`: a commit that succeeds does what the whole run would do at that moment.
* `no_lost_update`: successful commits replace what was read, all else leaves the files alone, and
  the files end up as after the successful runs one after another.
-/

namespace Graft

namespace Interleaving

/-- How far a run has come. -/
inductive Phase
  /-- Nothing was read yet. -/
  | idle
  /-- A snapshot was read. -/
  | holding (snapshot : Snapshot)
  /-- An insertion into the snapshot is planned. -/
  | planned (snapshot : Snapshot) (insertion : Insertion)
  /-- The insertion was committed. -/
  | committed (outcome : Outcome)
  /-- The run ended without a commit. -/
  | stopped (result : Except Failure Outcome)

namespace Phase

/-- Read the file. -/
def read (fs : FileSystem) (path : Path) : Phase → Phase
  | idle =>
    match Snapshot.read fs path with
    | .ok snapshot => holding snapshot
    | .error e => stopped (.error e)
  | phase => phase

/-- Plan the edit on the snapshot. -/
def plan (edit : Edit) (path : Path) : Phase → Phase
  | holding snapshot =>
    match edit.plan snapshot with
    | .ok (.insert insertion) => planned snapshot insertion
    | .ok (.alreadyPresent line) => stopped (.ok (.alreadyApplied path line))
    | .error e => stopped (.error e)
  | phase => phase

/-- Commit the insertion. -/
def commit (fs : FileSystem) : Phase → Phase × FileSystem
  | planned snapshot insertion =>
    match snapshot.commit fs insertion.text with
    | .ok after => (committed (Edit.outcome snapshot insertion true), after)
    | .error e => (stopped (.error e), fs)
  | phase => (phase, fs)

/-- What a run came to. -/
def result? : Phase → Option (Except Failure Outcome)
  | committed outcome => some (.ok outcome)
  | stopped result => some result
  | _ => none

/-- Whether a run has returned from a commit that succeeded. -/
def HasCommitted (phase : Phase) : Prop :=
  ∃ outcome, phase = committed outcome

/-- Whether a commit is due and succeeds. -/
def commits (fs : FileSystem) : Phase → Bool
  | planned snapshot insertion => (snapshot.commit fs insertion.text).isOk
  | _ => false

end Phase

/-- The files, and how far each run has come. -/
structure State (ι : Type) where
  /-- The files. -/
  fs : FileSystem
  /-- How far each run has come. -/
  phase : ι → Phase

/-- One step. -/
inductive Action (ι : Type)
  /-- A run reads the file. -/
  | read (i : ι)
  /-- A run plans its edit. -/
  | plan (i : ι)
  /-- A run commits its insertion. -/
  | commit (i : ι)
  /-- Someone else does something to the files. -/
  | outside (write : FileSystem → FileSystem)

/-- What takes place as a whole when runs are made one after another. -/
inductive Entry (ι : Type)
  /-- A run from its reading to its commit. -/
  | run (i : ι)
  /-- Someone else does something to the files. -/
  | outside (write : FileSystem → FileSystem)

/-- The run that takes a step. -/
def Action.party? {ι : Type} : Action ι → Option ι
  | read i | plan i | commit i => some i
  | outside _ => none

variable {ι : Type} [DecidableEq ι] (edits : ι → Edit) (path : Path)

/-- The state after a step. A step that is not due does nothing. -/
def step (state : State ι) : Action ι → State ι
  | .read i =>
    { state with phase := Function.update state.phase i ((state.phase i).read state.fs path) }
  | .plan i =>
    { state with phase := Function.update state.phase i ((state.phase i).plan (edits i) path) }
  | .commit i =>
    { fs := ((state.phase i).commit state.fs).2
      phase := Function.update state.phase i ((state.phase i).commit state.fs).1 }
  | .outside write => { state with fs := write state.fs }

/-- No run has read anything yet. -/
def start (fs : FileSystem) : State ι where
  fs := fs
  phase := fun _ => .idle

/-- The state after all steps. -/
def exec (state : State ι) (actions : List (Action ι)) : State ι :=
  actions.foldl (step edits path) state

/-- What a step adds to the serial order: what others do, and a run at its successful commit. -/
def entries (state : State ι) : Action ι → List (Entry ι)
  | .commit i => if (state.phase i).commits state.fs then [.run i] else []
  | .outside write => [.outside write]
  | _ => []

/-- What others do and the successful runs, in the order of their commits. -/
def serial (state : State ι) : List (Action ι) → List (Entry ι)
  | [] => []
  | action :: rest => entries state action ++ serial (step edits path state action) rest

/-- What an entry comes to, and the files after it. -/
def replayOne (fs : FileSystem) : Entry ι → FileSystem
  | .run i => ((edits i).run fs path .apply).2
  | .outside write => write fs

/-- The files after all entries, one after another. -/
def replay (fs : FileSystem) (order : List (Entry ι)) : FileSystem :=
  order.foldl (replayOne edits path) fs

/-- The states of the files that occur. -/
def visited (fs : FileSystem) (actions : List (Action ι)) : Set FileSystem :=
  {now | ∃ front, front <+: actions ∧ now = (exec edits path (start fs) front).fs}

/-- The contents of the file that occur. -/
def contents (fs : FileSystem) (actions : List (Action ι)) : Set ByteArray :=
  {bytes | ∃ now ∈ visited edits path fs actions, now.readBytes path = .ok bytes}

section Laws

variable {edits path} {fs : FileSystem} {state : State ι} {action : Action ι}
  {front actions rest : List (Action ι)} {phase : Phase}

theorem Phase.commits_iff : phase.commits fs ↔ ∃ snapshot insertion after,
    phase = .planned snapshot insertion ∧ snapshot.commit fs insertion.text = .ok after := by
  cases phase with
  | planned snapshot insertion =>
    rw [Phase.commits]
    cases hcommit : snapshot.commit fs insertion.text with
    | error e => simp [hcommit, Except.isOk, Except.toBool]
    | ok after => simp [hcommit, Except.isOk, Except.toBool]
  | _ => simp [Phase.commits]

/-- A commit that is not due or does not succeed changes nothing. -/
theorem Phase.commit_of_not_commits (h : ¬phase.commits fs) : (phase.commit fs).2 = fs := by
  cases phase with
  | planned snapshot insertion =>
    rw [Phase.commit]
    split
    next after hafter => exact absurd (Phase.commits_iff.2 ⟨_, _, after, rfl, hafter⟩) h
    next => rfl
  | _ => rfl

theorem exec_concat : exec edits path state (front ++ [action]) =
    step edits path (exec edits path state front) action := by
  rw [exec, List.foldl_append]
  rfl

theorem serial_append : serial edits path state (front ++ rest) =
    serial edits path state front ++ serial edits path (exec edits path state front) rest := by
  induction front generalizing state with
  | nil => rfl
  | cons action front ih =>
    rw [List.cons_append, serial, serial, ih, List.append_assoc]
    rfl

theorem serial_concat : serial edits path state (front ++ [action]) =
    serial edits path state front ++ entries (exec edits path state front) action := by
  rw [serial_append, serial, serial, List.append_nil]

omit [DecidableEq ι] in
theorem replay_append {order order' : List (Entry ι)} :
    replay edits path fs (order ++ order') =
      replay edits path (replay edits path fs order) order' :=
  List.foldl_append

theorem mem_visited (h : front <+: actions) :
    (exec edits path (start fs) front).fs ∈ visited edits path fs actions :=
  ⟨front, h, rfl⟩

theorem visited_subset (h : front <+: actions) :
    visited edits path fs front ⊆ visited edits path fs actions := by
  rintro now ⟨front', hfront', rfl⟩
  exact mem_visited (hfront'.trans h)

/-! ## What a run holds -/

/-- What a run holds was read of the path at a state that occurred, and planned on that. -/
def Known (edit : Edit) (path : Path) (seen : Set FileSystem) : Phase → Prop
  | .holding snapshot => ∃ earlier ∈ seen, Snapshot.read earlier path = .ok snapshot
  | .planned snapshot insertion =>
    (∃ earlier ∈ seen, Snapshot.read earlier path = .ok snapshot) ∧
      edit.plan snapshot = .ok (.insert insertion)
  | _ => True

variable {edit : Edit} {seen seen' : Set FileSystem}

theorem Known.mono (hseen : seen ⊆ seen') (h : Known edit path seen phase) :
    Known edit path seen' phase := by
  cases phase with
  | holding snapshot =>
    obtain ⟨earlier, hearlier, hread⟩ := h
    exact ⟨earlier, hseen hearlier, hread⟩
  | planned snapshot insertion =>
    obtain ⟨⟨earlier, hearlier, hread⟩, hplan⟩ := h
    exact ⟨⟨earlier, hseen hearlier, hread⟩, hplan⟩
  | _ => trivial

theorem Known.read (hfs : fs ∈ seen) (h : Known edit path seen phase) :
    Known edit path seen (phase.read fs path) := by
  cases phase with
  | idle =>
    rw [Phase.read]
    split
    next snapshot hread => exact ⟨fs, hfs, hread⟩
    next => trivial
  | _ => exact h

theorem Known.plan (h : Known edit path seen phase) :
    Known edit path seen (phase.plan edit path) := by
  cases phase with
  | holding snapshot =>
    rw [Phase.plan]
    split
    next insertion hplan => exact ⟨h, hplan⟩
    next => trivial
    next => trivial
  | _ => exact h

theorem Known.commit (h : Known edit path seen phase) :
    Known edit path seen (phase.commit fs).1 := by
  cases phase with
  | planned snapshot insertion =>
    rw [Phase.commit]
    split <;> trivial
  | _ => exact h

/-- A step keeps what is known of each run. -/
theorem known_step (hfs : state.fs ∈ seen) (h : ∀ i, Known (edits i) path seen (state.phase i))
    (action : Action ι) (i : ι) :
    Known (edits i) path seen ((step edits path state action).phase i) := by
  -- only the run that takes the step comes to another phase
  have hupdate : ∀ j phase, Known (edits j) path seen phase →
      Known (edits i) path seen (Function.update state.phase j phase i) := by
    intro j phase hphase
    by_cases hij : i = j
    · subst hij
      rwa [Function.update_self]
    · rw [Function.update_of_ne hij]
      exact h i
  cases action with
  | read j => exact hupdate j _ ((h j).read hfs)
  | plan j => exact hupdate j _ (h j).plan
  | commit j => exact hupdate j _ (h j).commit
  | outside write => exact h i

/-- At every moment, each run holds what was read at a state that occurred. -/
theorem known_exec (fs : FileSystem) (actions : List (Action ι)) (i : ι) :
    Known (edits i) path (visited edits path fs actions)
      ((exec edits path (start fs) actions).phase i) := by
  -- by induction on the steps from the last one on; the states that occurred before still occur
  induction actions using List.reverseRecOn generalizing i with
  | nil => trivial
  | append_singleton front action ih =>
    have hprefix : front <+: front ++ [action] := List.prefix_append front [action]
    rw [exec_concat]
    exact known_step (mem_visited hprefix) (fun j => (ih j).mono (visited_subset hprefix)) action i

/-! ## Successful commits -/

/-- A commit that succeeds on the text that was planned on does what the whole run would do. -/
theorem run_of_commit {snapshot : Snapshot} {insertion : Insertion} {earlier now after : FileSystem}
    (hread : Snapshot.read earlier path = .ok snapshot)
    (hplan : edit.plan snapshot = .ok (.insert insertion))
    (hsame : ∀ bytes, now.readBytes path = .ok bytes →
      fingerprint bytes = fingerprint snapshot.text.bytes → bytes = snapshot.text.bytes)
    (hcommit : snapshot.commit now insertion.text = .ok after) :
    now.Rewritten after path snapshot.text insertion.text ∧
      edit.run now path .apply = (.ok (Edit.outcome snapshot insertion true), after) := by
  obtain ⟨text, htext, rfl⟩ := Snapshot.read_eq_ok_iff.1 hread
  rw [Snapshot.text_ofText] at hsame ⊢
  obtain ⟨location, bytes, hresolve, hopen, hcontent, hunchanged, rfl⟩ :=
    Snapshot.commit_eq_ok_iff.1 hcommit
  -- the commit opens the canonical path; the path itself opens the same file, as it is not too long
  have hlocate : now.locate path = .ok location := by
    obtain ⟨location', hlocate', -⟩ := FileSystem.readText_eq_ok_iff_contentAt.1 htext
    rw [FileSystem.locate_eq_resolve hlocate' now]
    exact hresolve
  have hbytes : now.readBytes path = .ok bytes :=
    FileSystem.readBytes_eq_ok_iff.2 ⟨location, hlocate, hcontent⟩
  have hfingerprint : fingerprint bytes = fingerprint text.bytes := of_decide_eq_true hunchanged
  obtain rfl := hsame bytes hbytes hfingerprint
  -- so a run that starts now reads the same snapshot, and plans and commits the same
  have hnow : now.readText path = .ok text := FileSystem.readText_eq_ok_iff.2 hbytes
  have hread' : Snapshot.read now path = .ok (.ofText path text) :=
    Snapshot.read_eq_ok_iff.2 ⟨text, hnow, rfl⟩
  refine ⟨FileSystem.rewritten_setContent hnow hlocate, ?_⟩
  have hopen' : now.reopen path = .ok location := hopen
  rw [Edit.run_apply_of_insert hread' hplan, hopen']

/-- A successful commit takes place on what was planned on, if no two contents that occur have one
fingerprint. -/
theorem run_of_commits {i : ι}
    (hinj : Set.InjOn fingerprint (contents edits path fs actions)) (hfront : front <+: actions)
    (hcommits : ((exec edits path (start fs) front).phase i).commits
      (exec edits path (start fs) front).fs) :
    ∃ snapshot insertion,
      (exec edits path (start fs) front).phase i = .planned snapshot insertion ∧
      (edits i).plan snapshot = .ok (.insert insertion) ∧
      (exec edits path (start fs) front).fs.Rewritten
        (exec edits path (start fs) (front ++ [.commit i])).fs path snapshot.text insertion.text ∧
      (edits i).run (exec edits path (start fs) front).fs path .apply =
        (.ok (Edit.outcome snapshot insertion true),
          (exec edits path (start fs) (front ++ [.commit i])).fs) := by
  obtain ⟨snapshot, insertion, after, hphase, hcommit⟩ := Phase.commits_iff.1 hcommits
  have hknown : Known (edits i) path (visited edits path fs front)
      ((exec edits path (start fs) front).phase i) := known_exec fs front i
  rw [hphase] at hknown
  obtain ⟨⟨earlier, hearlier, hread⟩, hplan⟩ := hknown
  have hafter : (exec edits path (start fs) (front ++ [.commit i])).fs = after := by
    rw [exec_concat, step, hphase, Phase.commit, hcommit]
  -- both the bytes at the commit and those of the snapshot are contents that occur
  have hsame : ∀ bytes, (exec edits path (start fs) front).fs.readBytes path = .ok bytes →
      fingerprint bytes = fingerprint snapshot.text.bytes → bytes = snapshot.text.bytes := by
    intro bytes hbytes hfingerprint
    refine hinj ⟨_, mem_visited hfront, hbytes⟩
      ⟨earlier, visited_subset hfront hearlier, ?_⟩ hfingerprint
    obtain ⟨text, htext, rfl⟩ := Snapshot.read_eq_ok_iff.1 hread
    rw [Snapshot.text_ofText]
    exact FileSystem.readText_eq_ok_iff.1 htext
  obtain ⟨hrewritten, hrun⟩ := run_of_commit hread hplan hsame hcommit
  rw [hafter]
  exact ⟨snapshot, insertion, hphase, hplan, hrewritten, hrun⟩

/-! ## Runs that do not commit -/

theorem Phase.hasCommitted_read : (phase.read fs path).HasCommitted ↔ phase.HasCommitted := by
  cases phase with
  | idle =>
    rw [Phase.read]
    split <;> simp [HasCommitted]
  | _ => rfl

theorem Phase.hasCommitted_plan : (phase.plan edit path).HasCommitted ↔ phase.HasCommitted := by
  cases phase with
  | holding snapshot =>
    rw [Phase.plan]
    split <;> simp [HasCommitted]
  | _ => rfl

theorem Phase.hasCommitted_commit :
    (phase.commit fs).1.HasCommitted ↔ phase.HasCommitted ∨ phase.commits fs := by
  cases phase with
  | planned snapshot insertion =>
    rw [Phase.commit, Phase.commits]
    split
    next after hafter => simp [HasCommitted, hafter, Except.isOk, Except.toBool]
    next e he => simp [HasCommitted, he, Except.isOk, Except.toBool]
  | _ => simp [Phase.commit, Phase.commits]

/-- A run has committed after a step when it had before, or when its commit is the step. -/
theorem hasCommitted_step {i : ι} :
    ((step edits path state action).phase i).HasCommitted ↔
      (state.phase i).HasCommitted ∨ .run i ∈ entries state action := by
  have hupdate : ∀ j phase, (Function.update state.phase j phase i).HasCommitted ↔
      if i = j then phase.HasCommitted else (state.phase i).HasCommitted := by
    intro j phase
    by_cases hij : i = j
    · subst hij
      rw [Function.update_self, if_pos rfl]
    · rw [Function.update_of_ne hij, if_neg hij]
  cases action with
  | read j =>
    rw [step, hupdate, Phase.hasCommitted_read]
    by_cases hij : i = j <;> simp [hij, entries]
  | plan j =>
    rw [step, hupdate, Phase.hasCommitted_plan]
    by_cases hij : i = j <;> simp [hij, entries]
  | commit j =>
    rw [step, hupdate, Phase.hasCommitted_commit]
    by_cases hij : i = j
    · subst hij
      simp [entries]
    · simp [hij, entries]
  | outside write => simp [step, entries]

/-- A run that has committed stays committed. -/
theorem hasCommitted_mono {i : ι} (hfront : front <+: actions)
    (h : ((exec edits path state front).phase i).HasCommitted) :
    ((exec edits path state actions).phase i).HasCommitted := by
  obtain ⟨rest, rfl⟩ := hfront
  induction rest using List.reverseRecOn with
  | nil => rwa [List.append_nil]
  | append_singleton rest action ih =>
    rw [← List.append_assoc, exec_concat, hasCommitted_step]
    exact .inl ih

/-- No step of a run that never commits changes the files. -/
theorem fs_exec_of_not_hasCommitted {i : ι} (hfront : front ++ [action] <+: actions)
    (hparty : action.party? = some i)
    (h : ¬((exec edits path state actions).phase i).HasCommitted) :
    (exec edits path state (front ++ [action])).fs = (exec edits path state front).fs := by
  rw [exec_concat]
  cases action with
  | commit j =>
    cases hparty
    refine Phase.commit_of_not_commits fun hcommits => h (hasCommitted_mono hfront ?_)
    rw [exec_concat, hasCommitted_step]
    exact .inr (by simp [entries, hcommits])
  | outside write => cases hparty
  | _ => rfl

/-! ## Serial order -/

/-- The serial order holds exactly the runs that commit. -/
theorem mem_serial_iff {i : ι} : .run i ∈ serial edits path (start fs) actions ↔
    ((exec edits path (start fs) actions).phase i).HasCommitted := by
  induction actions using List.reverseRecOn with
  | nil => simp [serial, exec, start, Phase.HasCommitted]
  | append_singleton front action ih =>
    rw [serial_concat, List.mem_append, ih, exec_concat, hasCommitted_step]

/-- What a step does to the files is what its entries do one after another. -/
theorem replay_entries (hinj : Set.InjOn fingerprint (contents edits path fs actions))
    (hfront : front <+: actions) (action : Action ι) :
    replay edits path (exec edits path (start fs) front).fs
        (entries (exec edits path (start fs) front) action) =
      (exec edits path (start fs) (front ++ [action])).fs := by
  cases action with
  | commit i =>
    by_cases hcommits : ((exec edits path (start fs) front).phase i).commits
        (exec edits path (start fs) front).fs
    · obtain ⟨snapshot, insertion, -, -, -, hrun⟩ := run_of_commits hinj hfront hcommits
      simp [entries, hcommits, replay, replayOne, hrun]
    · rw [entries, if_neg hcommits, exec_concat]
      exact (Phase.commit_of_not_commits hcommits).symm
  | _ =>
    rw [exec_concat]
    rfl

/-- At every moment the files are as after the outside writes and the successful runs so far, one
after another. -/
theorem fs_exec_eq_replay (hinj : Set.InjOn fingerprint (contents edits path fs actions))
    (hfront : front <+: actions) :
    (exec edits path (start fs) front).fs =
      replay edits path fs (serial edits path (start fs) front) := by
  induction front using List.reverseRecOn with
  | nil => rfl
  | append_singleton front action ih =>
    have hbefore : front <+: actions := (List.prefix_append front [action]).trans hfront
    rw [serial_concat, replay_append, ← ih hbefore, replay_entries hinj hbefore]

end Laws

/-- One run that nobody interrupts is the run of its edit. -/
theorem exec_alone (fs : FileSystem) (i : ι) :
    let final := exec edits path (start fs) [.read i, .plan i, .commit i]
    (final.phase i).result? = some ((edits i).run fs path .apply).1 ∧
      final.fs = ((edits i).run fs path .apply).2 := by
  intro final
  have hphase : final.phase i =
      (((Phase.idle.read fs path).plan (edits i) path).commit fs).1 := by
    simp [final, exec, step, start]
  have hfs : final.fs = (((Phase.idle.read fs path).plan (edits i) path).commit fs).2 := by
    simp [final, exec, step, start]
  rw [hphase, hfs, Edit.run, Phase.read]
  cases Snapshot.read fs path with
  | error e => exact ⟨rfl, rfl⟩
  | ok snapshot =>
    simp only [Phase.plan]
    cases (edits i).plan snapshot with
    | error e => exact ⟨rfl, rfl⟩
    | ok verdict =>
      cases verdict with
      | alreadyPresent line => exact ⟨rfl, rfl⟩
      | insert insertion =>
        simp only [Phase.commit]
        cases snapshot.commit fs insertion.text with
        | error e => exact ⟨rfl, rfl⟩
        | ok after => exact ⟨rfl, rfl⟩

/-- Whatever the order of the steps, and whatever others do to the files in between: a commit that
succeeds replaces what the run has read and planned on, and does what the whole run would do at that
moment; the steps of a run that never commits leave the files alone; and in the end the files are as
after the outside writes and the runs that committed, one after another. -/
theorem no_lost_update (fs : FileSystem) (actions : List (Action ι))
    (hinj : Set.InjOn fingerprint (contents edits path fs actions)) :
    (∀ front i, front ++ [.commit i] <+: actions →
      ((exec edits path (start fs) front).phase i).commits (exec edits path (start fs) front).fs →
      ∃ snapshot insertion,
        (exec edits path (start fs) front).phase i = .planned snapshot insertion ∧
        (edits i).plan snapshot = .ok (.insert insertion) ∧
        (exec edits path (start fs) front).fs.Rewritten
          (exec edits path (start fs) (front ++ [.commit i])).fs path
          snapshot.text insertion.text ∧
        (edits i).run (exec edits path (start fs) front).fs path .apply =
          (.ok (Edit.outcome snapshot insertion true),
            (exec edits path (start fs) (front ++ [.commit i])).fs)) ∧
    (∀ i, ¬((exec edits path (start fs) actions).phase i).HasCommitted →
      ∀ front action, front ++ [action] <+: actions → action.party? = some i →
        (exec edits path (start fs) (front ++ [action])).fs =
          (exec edits path (start fs) front).fs) ∧
    (∀ i, .run i ∈ serial edits path (start fs) actions ↔
      ((exec edits path (start fs) actions).phase i).HasCommitted) ∧
    (exec edits path (start fs) actions).fs =
      replay edits path fs (serial edits path (start fs) actions) := by
  refine ⟨fun front i hfront hcommits => ?_, fun i hi front action hfront hparty => ?_,
    fun i => mem_serial_iff, fs_exec_eq_replay hinj (List.prefix_refl actions)⟩
  · exact run_of_commits hinj ((List.prefix_append front _).trans hfront) hcommits
  · exact fs_exec_of_not_hasCommitted hfront hparty hi

/-- Two runs read the file before either commits. The first insertion is taken back before the
second run commits, which then finds what it has read. -/
theorem no_lost_update_changed_back :
    let edits : Bool → Edit := fun b =>
      ⟨⟨[⟨0, .equals ['a']⟩]⟩, ⟨[[if b then 'x' else 'y', '\n']]⟩, .after, true⟩
    let fs : FileSystem := ⟨[(["f"], .file (Text.bytes ['a', '\n']) 0o644)], []⟩
    let actions : List (Action Bool) :=
      [.read true, .read false, .plan true, .plan false, .commit true,
        .outside fun fs => fs.setContent ["f"] (Text.bytes ['a', '\n']), .commit false]
    Set.InjOn fingerprint (contents edits "f" fs actions) ∧
      (exec edits "f" (start fs) actions).fs.readText "f" = .ok ['a', '\n', 'y', '\n'] ∧
      (exec edits "f" (start fs) actions).fs =
        replay edits "f" fs (serial edits "f" (start fs) actions) := by
  intro edits fs actions
  let texts := [Text.bytes ['a', '\n'], Text.bytes ['a', '\n', 'x', '\n'],
    Text.bytes ['a', '\n', 'y', '\n']]
  have hread : ∀ n ≤ 7, (exec edits "f" (start fs) (actions.take n)).fs.readBytes "f" ∈
      texts.map Except.ok := by
    decide +kernel
  have hdistinct : ∀ bytes ∈ texts, ∀ other ∈ texts,
      fingerprint bytes = fingerprint other → bytes = other := by
    decide +kernel
  have hmem : ∀ bytes ∈ contents edits "f" fs actions, bytes ∈ texts := by
    rintro bytes ⟨now, ⟨front, hfront, rfl⟩, hbytes⟩
    have hn := hread front.length hfront.length_le
    rw [← List.prefix_iff_eq_take.1 hfront, hbytes] at hn
    obtain ⟨other, hother, heq⟩ := List.mem_map.1 hn
    rwa [← Except.ok.inj heq]
  have hinj : Set.InjOn fingerprint (contents edits "f" fs actions) :=
    fun bytes hbytes other hother => hdistinct bytes (hmem bytes hbytes) other (hmem other hother)
  have hlast : (exec edits "f" (start fs) actions).fs.readText "f" =
      .ok ['a', '\n', 'y', '\n'] := by
    decide +kernel
  exact ⟨hinj, hlast, (no_lost_update edits "f" fs actions hinj).2.2.2⟩

end Interleaving

end Graft
