import Graft.FileSystem

/-!
# Walking through a file system

What walks come to, whichever locations fit and whatever is done at a link.

* `FileSystem.walk_eq_or_nameTooLong`: a walk through locations that fit differs from a free walk by
  a location that does not fit.
* `FileSystem.stands_of_walk`: a walk ends at a file or a directory, never at a link.
* `FileSystem.resolve_setContent`: other bytes in a file lead no path elsewhere.
-/

namespace Graft.FileSystem

variable {fs : FileSystem} {fits : Location → Bool} {here location : Location}

/-- A file or a directory stands at a location. -/
def Stands (fs : FileSystem) (location : Location) : Prop :=
  ∃ node, fs.lookup location = some node ∧ ∀ target, node ≠ .link target

/-- What stands in a directory has a name that can, and the directory stands. -/
theorem directory_of_lookup_concat {name : String} {node : Node}
    (h : fs.lookup (here ++ [name]) = some node) :
    fs.lookup here = some .directory ∧ isName name := by
  rw [lookup_concat] at h
  split at h
  next hdir => exact hdir
  next => cases h

/-- The way back from a directory ends at a directory. -/
theorem lookup_dropLast (h : fs.lookup here = some .directory) :
    fs.lookup here.dropLast = some .directory := by
  rcases List.eq_nil_or_concat here with rfl | ⟨front, last, rfl⟩
  · exact h
  · rw [List.concat_eq_append] at h
    rw [List.concat_eq_append, List.dropLast_concat]
    exact (directory_of_lookup_concat h).1

/-- Where only some locations fit, a name leads where it leads anyway, unless that does not fit. -/
theorem enter_eq_or_nameTooLong (fs : FileSystem) (fits : Location → Bool) (here : Location)
    (name : String) :
    fs.enter fits here name = fs.enter (fun _ => true) here name ∨
      fs.enter fits here name = .error .nameTooLong := by
  by_cases h : name ≠ "." ∧ name ≠ ".." ∧ !fits (here ++ [name])
  · exact .inr (if_pos h)
  · exact .inl (by rw [enter, if_neg h]; simp [enter])

/-- A name leads somewhere only from a directory, and to a file or a directory or else to a link. -/
theorem stands_of_enter {name : String} {passage : Passage}
    (h : fs.enter fits here name = .ok passage) :
    fs.lookup here = some .directory ∧ ∀ location, passage = .to location → fs.Stands location := by
  rcases enter_eq_or_nameTooLong fs fits here name with heq | heq
  case inr => rw [heq] at h; cases h
  rw [heq] at h
  simp only [enter, Bool.not_true, Bool.false_eq_true, and_false, if_false] at h
  split at h
  case h_1 hdir =>
    refine ⟨hdir, ?_⟩
    rintro location rfl
    split at h
    · cases h
      exact ⟨.directory, hdir, by simp⟩
    split at h
    · cases h
      exact ⟨.directory, lookup_dropLast hdir, by simp⟩
    split at h
    · cases h
    split at h
    · cases h
    next node hnode =>
      -- a link leads to no location of its own
      cases node with
      | link target => cases h
      | directory => cases h; exact ⟨.directory, hnode, by simp⟩
      | file content mode => cases h; exact ⟨.file content mode, hnode, by simp⟩
  case h_2 => cases h
  case h_3 => cases h

/-- Where everything that there is fits, a name leads where it leads anyway. -/
theorem enter_of_fits (hfits : ∀ other node, fs.lookup other = some node → fits other)
    {name : String} {passage : Passage} (h : fs.enter (fun _ => true) here name = .ok passage) :
    fs.enter fits here name = .ok passage := by
  by_cases htoo : name ≠ "." ∧ name ≠ ".." ∧ !fits (here ++ [name])
  · -- nothing can stand at a location that does not fit
    exfalso
    obtain ⟨hself, hback, hnot⟩ := htoo
    have hnone : fs.lookup (here ++ [name]) = none := by
      rw [Option.eq_none_iff_forall_ne_some]
      intro node hnode
      rw [hfits _ node hnode] at hnot
      cases hnot
    simp only [enter, hself, hback, hnone, if_false, Bool.not_true, Bool.false_eq_true,
      and_false] at h
    split at h
    · split at h <;> cases h
    · cases h
    · cases h
  · rw [enter, if_neg htoo]
    simpa [enter] using h

/-- The name of a file or a directory in a directory leads to it. -/
theorem enter_of_stands {name : String} (h : fs.Stands (here ++ [name])) :
    fs.enter (fun _ => true) here name = .ok (.to (here ++ [name])) := by
  obtain ⟨node, hnode, hlink⟩ := h
  obtain ⟨hdir, hname⟩ := directory_of_lookup_concat hnode
  simp only [isName, Bool.and_eq_true, decide_eq_true_eq] at hname
  obtain ⟨⟨⟨⟨⟨-, hself⟩, hback⟩, -⟩, -⟩, hsize⟩ := hname
  have hpassage : Passage.ofNode (here ++ [name]) node = .to (here ++ [name]) := by
    cases node with
    | link target => exact absurd rfl (hlink target)
    | directory => rfl
    | file content mode => rfl
  simp [enter, hself, hback, hdir, hnode, hpassage, Nat.not_lt.2 hsize]

/-- A file with other bytes is passed as the file was. -/
theorem passage_withContent (content : ByteArray) (node : Node) :
    Passage.ofNode location (node.withContent content) = Passage.ofNode location node := by
  cases node <;> rfl

/-- A name leads where it led before a file got other bytes. -/
theorem enter_setContent (content : ByteArray) (name : String) :
    (fs.setContent location content).enter fits here name = fs.enter fits here name := by
  have hpassage : ∀ node, Passage.ofNode (here ++ [name])
      (if here ++ [name] = location then node.withContent content else node) =
        Passage.ofNode (here ++ [name]) node := by
    intro node
    split
    · exact passage_withContent content node
    · rfl
  simp only [enter, lookup_setContent]
  cases fs.lookup here with
  | none => rfl
  | some node =>
    cases node with
    | directory =>
      cases fs.lookup (here ++ [name]) with
      | none => simp
      | some node => simp [hpassage]
    | file old mode => by_cases h : here = location <;> simp [h, Node.withContent]
    | link target => by_cases h : here = location <;> simp [h, Node.withContent]

/-! ## Walks -/

/-- Two walks that differ in what fits, and in what they do at links, differ by a location that does
not fit. -/
theorem walkFrom_eq_or_nameTooLong
    {follow follow' : Location → List String → Except FileError Location}
    (hfollow : ∀ from' names, follow from' names = follow' from' names ∨
      follow from' names = .error .nameTooLong)
    (here : Location) (names : List String) :
    fs.walkFrom fits follow here names = fs.walkFrom (fun _ => true) follow' here names ∨
      fs.walkFrom fits follow here names = .error .nameTooLong := by
  induction names generalizing here with
  | nil => exact .inl rfl
  | cons name rest ih =>
    rcases enter_eq_or_nameTooLong fs fits here name with heq | heq
    · simp only [walkFrom, heq]
      split
      next location _ => exact ih location
      next => exact hfollow _ _
      next => exact .inl rfl
    · exact .inr (by simp only [walkFrom, heq])

/-- A walk through locations that fit differs from a free walk by a location that does not fit. -/
theorem walk_eq_or_nameTooLong (fs : FileSystem) (fits : Location → Bool) (links : Nat)
    (here : Location) (names : List String) :
    fs.walk fits links here names = fs.walk (fun _ => true) links here names ∨
      fs.walk fits links here names = .error .nameTooLong := by
  induction links generalizing here names with
  | zero => exact walkFrom_eq_or_nameTooLong (fun _ _ => .inl rfl) here names
  | succ links ih => exact walkFrom_eq_or_nameTooLong ih here names

theorem walkFrom_of_fits (hfits : ∀ other node, fs.lookup other = some node → fits other)
    {follow follow' : Location → List String → Except FileError Location}
    (hfollow : ∀ from' names location, follow' from' names = .ok location →
      follow from' names = .ok location)
    {names : List String} (h : fs.walkFrom (fun _ => true) follow' here names = .ok location) :
    fs.walkFrom fits follow here names = .ok location := by
  induction names generalizing here with
  | nil => exact h
  | cons name rest ih =>
    simp only [walkFrom] at h ⊢
    split at h
    next next' hpassage =>
      rw [enter_of_fits hfits hpassage]
      exact ih h
    next target hpassage =>
      rw [enter_of_fits hfits hpassage]
      exact hfollow _ _ _ h
    next => cases h

/-- Where everything that there is fits, a walk ends where it ends anyway. -/
theorem walk_of_fits (hfits : ∀ other node, fs.lookup other = some node → fits other) {links : Nat}
    {names : List String} (h : fs.walk (fun _ => true) links here names = .ok location) :
    fs.walk fits links here names = .ok location := by
  induction links generalizing here names location with
  | zero => exact walkFrom_of_fits hfits (fun _ _ _ h => h) h
  | succ links ih => exact walkFrom_of_fits hfits (fun _ _ _ h => ih h) h

/-- A walk from where a file or a directory stands ends at one, if the walks at links do. -/
theorem stands_of_walkFrom {follow : Location → List String → Except FileError Location}
    (hfollow : ∀ from' names location, fs.lookup from' = some .directory →
      follow from' names = .ok location → fs.Stands location)
    {names : List String} (hhere : fs.Stands here)
    (h : fs.walkFrom fits follow here names = .ok location) : fs.Stands location := by
  induction names generalizing here with
  | nil => cases h; exact hhere
  | cons name rest ih =>
    simp only [walkFrom] at h
    split at h
    next next' hpassage => exact ih ((stands_of_enter hpassage).2 _ rfl) h
    next target hpassage =>
      refine hfollow _ _ _ ?_ h
      split
      · simp [lookup, isReached, listed]
      · exact (stands_of_enter hpassage).1
    next => cases h

/-- A walk from where a file or a directory stands ends at one. -/
theorem stands_of_walk {links : Nat} {names : List String} (hhere : fs.Stands here)
    (h : fs.walk fits links here names = .ok location) : fs.Stands location := by
  induction links generalizing here names location with
  | zero => exact stands_of_walkFrom (fun _ _ _ _ h => by cases h) hhere h
  | succ links ih =>
    refine stands_of_walkFrom (fun from' names location hdir h => ih ?_ h) hhere h
    exact ⟨.directory, hdir, by simp⟩

/-- A walk goes where it went before a file got other bytes. -/
theorem walkFrom_setContent (content : ByteArray)
    (follow : Location → List String → Except FileError Location) :
    (fs.setContent location content).walkFrom fits follow = fs.walkFrom fits follow := by
  funext here names
  induction names generalizing here with
  | nil => rfl
  | cons name rest ih => simp only [walkFrom, enter_setContent, ih]

/-- Other bytes in a file lead no walk elsewhere. -/
theorem walk_setContent (content : ByteArray) (links : Nat) :
    (fs.setContent location content).walk fits links = fs.walk fits links := by
  induction links with
  | zero => exact walkFrom_setContent content _
  | succ links ih => simp only [walk, walkFrom_setContent, ih]

/-- Other bytes in a file lead no path elsewhere. -/
@[simp]
theorem resolve_setContent (content : ByteArray) (path : Path) :
    (fs.setContent location content).resolve path = fs.resolve path := by
  simp only [resolve, resolveWithin, walk_setContent]
  rfl

/-- Other bytes in a file do not change which file a path opens. -/
@[simp]
theorem locate_setContent (content : ByteArray) (path : Path) :
    (fs.setContent location content).locate path = fs.locate path := by
  simp only [locate, resolve_setContent]

end Graft.FileSystem
