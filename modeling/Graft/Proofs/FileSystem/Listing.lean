import Graft.Proofs.FileSystem.CanonicalPath

/-!
# Files in a directory

The files that are listed for a directory, and the paths that name them.

* `FileSystem.mem_fileNames`: exactly the files that stand in a directory are listed for it.
* `FileSystem.walksOn_walk`: names are walked one after another.
* `FileSystem.resolve_join`: the path of a directory, joined with the name of what stands in it,
  leads there.
-/

namespace Graft

namespace Path

variable {directory : Path} {name : String}

/-- A path that is joined to a name has that name as its last piece. -/
theorem split_append_name (front : Text) (hslash : '/' ∉ name.toList) :
    Text.split '/' (front ++ '/' :: name.toList) = Text.split '/' front ++ [name.toList] := by
  rw [Text.split_eq_splitOn, Text.split_eq_splitOn, List.splitOn_append_cons_self,
    List.splitOn_eq_singleton hslash]

/-- A name is no absolute path. -/
theorem isAbsolute_eq_false (hslash : '/' ∉ name.toList) : isAbsolute name = false := by
  rw [isAbsolute, decide_eq_false_iff_not]
  exact fun h => hslash (List.mem_of_head? h)

/-- A path that is joined to a name has a slash between the two, if there is none already. -/
theorem exists_toList_join (hdirectory : directory ≠ "") (hslash : '/' ∉ name.toList) :
    ∃ between, (between = [] ∨ between = ['/']) ∧
      (directory.join name).toList = directory.toList ++ between ++ name.toList := by
  have habsolute := isAbsolute_eq_false hslash
  by_cases hlast : directory.toList.getLast? = some '/'
  · exact ⟨[], .inl rfl, by simp [join, habsolute, hdirectory, hlast]⟩
  · exact ⟨['/'], .inr rfl, by simp [join, habsolute, hdirectory, hlast]⟩

/-- The directory is walked to first; if its path asks for a directory itself, that is left out. -/
theorem exists_steps_join (hdirectory : directory ≠ "") (hname : name ≠ "")
    (hslash : '/' ∉ name.toList) :
    ∃ front, (directory.steps = front ∨ directory.steps = front ++ ["."]) ∧
      (directory.join name).steps = front ++ [name] := by
  have habsolute := isAbsolute_eq_false hslash
  -- whether or not a slash was there, the name is a piece of its own
  have hpieces : ∀ front, Text.split '/' (directory.join name).toList = front ++ [name.toList] →
      steps (directory.join name) =
        ((front.filter fun piece => !piece.isEmpty).map String.ofList) ++ [name] := by
    intro front hsplit
    simp only [steps, hsplit]
    simp [hname]
  by_cases hlast : directory.toList.getLast? = some '/'
  · obtain ⟨front, hfront⟩ := List.getLast?_eq_some_iff.1 hlast
    have hsplit : Text.split '/' directory.toList = Text.split '/' front ++ [[]] := by
      rw [hfront, Text.split_eq_splitOn, Text.split_eq_splitOn, List.splitOn_append_cons_self,
        List.splitOn_nil]
    refine ⟨_, .inr ?_, hpieces (Text.split '/' front) ?_⟩
    · simp [steps, hsplit]
    · rw [← split_append_name front hslash]
      simp [join, habsolute, hdirectory, hfront]
  · refine ⟨_, ?_, hpieces (Text.split '/' directory.toList) ?_⟩
    · simp only [steps]
      split
      next => exact .inr rfl
      next => exact .inl rfl
    · rw [← split_append_name _ hslash]
      simp [join, habsolute, hdirectory, hlast]

end Path

namespace FileSystem

variable {fs : FileSystem} {fits : Location → Bool} {here location directory : Location}
  {name : String} {links : Nat}

/-! ## Listings -/

/-- Exactly the files that stand in a directory are listed for it. -/
theorem mem_fileNames : name ∈ fs.fileNames directory ↔
    ∃ bytes mode, fs.lookup (directory ++ [name]) = some (.file bytes mode) := by
  rw [fileNames, List.mem_filter]
  constructor
  · rintro ⟨-, hfile⟩
    split at hfile
    next bytes mode hlookup => exact ⟨bytes, mode, hlookup⟩
    next => cases hfile
  · rintro ⟨bytes, mode, hlookup⟩
    refine ⟨?_, by rw [hlookup]⟩
    have hlisted : fs.nodes.lookup (directory ++ [name]) = some (.file bytes mode) := by
      simpa [listed] using (lookup_eq_some_iff.1 hlookup).2
    obtain ⟨before, after, hnodes, -⟩ := List.lookup_eq_some_iff.1 hlisted
    rw [List.mem_eraseDups, List.mem_filterMap]
    exact ⟨(directory ++ [name], .file bytes mode), by simp [hnodes], by simp⟩

theorem nodup_eraseDups (names : List String) : names.eraseDups.Nodup := by
  cases names with
  | nil => simp
  | cons name names =>
    rw [List.eraseDups_cons, List.nodup_cons, List.mem_eraseDups]
    exact ⟨by simp, nodup_eraseDups _⟩
termination_by names.length
decreasing_by exact Nat.lt_succ_of_le (List.length_filter_le ..)

/-- No name is listed twice. -/
theorem nodup_fileNames (fs : FileSystem) (directory : Location) :
    (fs.fileNames directory).Nodup :=
  (nodup_eraseDups _).filter _

/-- Sorted names of which none is there twice ascend. -/
theorem pairwise_lt_mergeSort {names : List String} (h : names.Nodup) :
    (names.mergeSort fun a b => decide (a ≤ b)).Pairwise (· < ·) := by
  have htrans : ∀ a b c : String, decide (a ≤ b) → decide (b ≤ c) → decide (a ≤ c) := by
    simp only [decide_eq_true_eq]
    exact fun a b c => String.le_trans
  have htotal : ∀ a b : String, decide (a ≤ b) || decide (b ≤ a) := by
    simpa using String.le_total
  have hsorted := List.pairwise_mergeSort htrans htotal names
  exact hsorted.imp₂ (fun a b hle hne => Std.lt_of_le_of_ne (of_decide_eq_true hle) hne)
    ((List.mergeSort_perm names _).nodup_iff.2 h)

/-! ## Walks through directories -/

/-- Names are walked one after another: the walk of the first fails whatever follows, or what
follows is walked from where it ends, with the links that are left. -/
def WalksOn (fs : FileSystem) (fits : Location → Bool)
    (walk : Location → List String → Except FileError Location) (here : Location)
    (names : List String) : Prop :=
  (∃ e, ∀ rest, walk here (names ++ rest) = .error e) ∨
    ∃ links location, ∀ rest, walk here (names ++ rest) = fs.walk fits links location rest

/-- A walk that goes on in this way at links goes on in this way. -/
theorem walksOn_of_follow {follow : Location → List String → Except FileError Location}
    (hwalk : fs.walk fits links = fs.walkFrom fits follow)
    (hfollow : ∀ here names, fs.WalksOn fits follow here names) (here : Location)
    (names : List String) : fs.WalksOn fits (fs.walk fits links) here names := by
  induction names generalizing here with
  | nil => exact .inr ⟨links, here, fun rest => rfl⟩
  | cons name names ih =>
    simp only [WalksOn, hwalk, walkFrom, List.cons_append] at ih ⊢
    cases fs.enter fits here name with
    | error e => exact .inl ⟨e, fun rest => rfl⟩
    | ok passage =>
      rcases passage with location | target
      · simpa only [hwalk] using ih location
      · simp only [← List.append_assoc]
        exact hfollow _ _

theorem walksOn_walk (fs : FileSystem) (fits : Location → Bool) (links : Nat) (here : Location)
    (names : List String) : fs.WalksOn fits (fs.walk fits links) here names := by
  induction links generalizing here names with
  | zero => exact walksOn_of_follow rfl (fun _ _ => .inl ⟨.tooManyLinks, fun _ => rfl⟩) here names
  | succ links ih => exact walksOn_of_follow rfl ih here names

/-- From the directory in which a file or a directory stands, its name leads to it. -/
theorem walk_of_stands (h : fs.Stands (here ++ [name])) :
    fs.walk (fun _ => true) links here [name] = .ok (here ++ [name]) := by
  cases links <;> simp [walk, walkFrom, enter_of_stands h]

/-- A directory leads to itself. -/
theorem enter_self {passage : Passage} (h : fs.enter fits here "." = .ok passage) :
    passage = .to here := by
  simp only [enter, ne_eq, not_true_eq_false, false_and, if_false, if_true] at h
  split at h
  next => cases h; rfl
  next => cases h
  next => cases h

/-- A walk that asks for a directory ends at it. -/
theorem eq_of_walk_self (h : fs.walk fits links here ["."] = .ok location) : location = here := by
  obtain ⟨follow, hwalk⟩ : ∃ follow, fs.walk fits links = fs.walkFrom fits follow := by
    cases links <;> exact ⟨_, rfl⟩
  simp only [hwalk, walkFrom] at h
  split at h
  next next' hpassage =>
    cases enter_self hpassage
    cases h
    rfl
  next target hpassage => cases enter_self hpassage
  next => cases h

/-- The path of a directory, joined with the name of what stands in it, leads there. -/
theorem resolve_join {path : Path} (hpath : fs.resolve path = .ok directory)
    (hstands : fs.Stands (directory ++ [name])) :
    fs.resolve (path.join name) = .ok (directory ++ [name]) := by
  have hname : isName name := isName_of_stands hstands name (by simp)
  simp only [isName, Bool.and_eq_true, Bool.not_eq_true', List.contains_eq_mem,
    decide_eq_false_iff_not] at hname
  obtain ⟨⟨⟨⟨⟨hempty, -⟩, -⟩, hslash⟩, hnull⟩, -⟩ := hname
  simp only [resolve, resolveWithin] at hpath ⊢
  split at hpath
  next => cases hpath
  next hpathNull =>
    split at hpath
    next => cases hpath
    next hpathEmpty =>
      have hne : path ≠ "" := by simpa using hpathEmpty
      obtain ⟨between, hbetween, hjoined⟩ := Path.exists_toList_join hne hslash
      obtain ⟨front, hsteps, hsteps'⟩ :=
        Path.exists_steps_join hne (by simpa using hempty) hslash
      -- the joined path starts where the path of the directory does
      have habsolute : (path.join name).isAbsolute = path.isAbsolute := by
        rw [Path.isAbsolute, hjoined, Path.isAbsolute]
        cases hfirst : path.toList with
        | nil => exact absurd (String.toList_eq_nil_iff.1 hfirst) hne
        | cons c rest => rfl
      have hnull' : (path.join name).toList.contains '\x00' = false := by
        rcases hbetween with rfl | rfl <;> simp_all
      have hempty' : (path.join name).isEmpty = false := by
        rw [Bool.eq_false_iff, ne_eq, String.isEmpty_iff, ← String.toList_eq_nil_iff, hjoined]
        simp [hne]
      rw [hnull', hempty', habsolute, hsteps']
      simp only [Bool.false_eq_true, if_false]
      rcases fs.walksOn_walk (fun _ => true) maxLinks (if path.isAbsolute then [] else fs.cwd)
        front with ⟨e, herror⟩ | ⟨links, here, hwalk⟩
      · -- what leads nowhere does not lead to the directory
        rcases hsteps with hsteps | hsteps
        · rw [hsteps, ← List.append_nil front, herror] at hpath
          cases hpath
        · rw [hsteps, herror] at hpath
          cases hpath
      · have hhere : here = directory := by
          rcases hsteps with hsteps | hsteps
          · rw [hsteps, ← List.append_nil front, hwalk] at hpath
            cases links <;> exact Except.ok.inj hpath
          · rw [hsteps, hwalk] at hpath
            exact (eq_of_walk_self hpath).symm
        rw [hwalk, hhere, walk_of_stands hstands]

/-- A path that names a file names no directory. -/
theorem directory?_join {path : Path} {bytes : ByteArray} {mode : Nat}
    (hpath : fs.directory? path = some directory)
    (hfile : fs.lookup (directory ++ [name]) = some (.file bytes mode)) :
    fs.directory? (path.join name) = none := by
  have hresolve : fs.resolve path = .ok directory := by
    unfold directory? at hpath
    split at hpath
    next location hlocate =>
      rw [Option.ite_none_right_eq_some] at hpath
      exact resolve_of_locate (hlocate.trans (congrArg _ (Option.some.inj hpath.2)))
    next => cases hpath
  have hjoined := resolve_join hresolve ⟨_, hfile, by simp⟩
  unfold directory?
  split
  next location hlocate =>
    rw [resolve_of_locate hlocate] at hjoined
    cases hjoined
    simp [hfile]
  next => rfl

end FileSystem

end Graft
