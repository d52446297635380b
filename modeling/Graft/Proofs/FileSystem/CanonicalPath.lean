import Graft.Proofs.FileSystem.Walk
import Mathlib.Data.List.Induction

/-!
# Canonical paths

The path from the root of what a path names is made by walking, and is walked again when the file is
opened by it. Both walks end at the same file.

* `Location.steps_path`: the path of a location is walked name by name.
* `FileSystem.resolve_path`: the path of a location at which no link stands leads there.
* `FileSystem.canonicalize_eq`: a path is made canonical where it leads, or is too long on the way.
* `FileSystem.reopen_eq_or_nameTooLong`: what is opened by the canonical path is what the path
  itself names, or nothing at all.
-/

namespace Graft

/-- Every path asks for something. -/
theorem Path.steps_ne_nil (path : Path) : path.steps ≠ [] := by
  unfold Path.steps
  simp only
  split
  · simp
  · next hlast =>
    intro hnil
    -- the last piece is not empty, so it is among the names
    obtain ⟨last, hmem⟩ : ∃ last, (Text.split '/' path.toList).getLast? = some last := by
      cases hpieces : Text.split '/' path.toList with
      | nil => exact absurd (Text.split_eq_splitOn '/' path.toList ▸ hpieces) (by simp)
      | cons piece pieces => simp [List.getLast?_cons]
    have hne : last ≠ [] := by
      rintro rfl
      exact hlast hmem
    have hin : last ∈ Text.split '/' path.toList := List.mem_of_getLast? hmem
    simp only [List.map_eq_nil_iff, List.filter_eq_nil_iff] at hnil
    exact hnil last hin (by simpa using hne)

namespace Location

/-- The characters of the path of a location. -/
theorem toList_path (location : Location) :
    location.path.toList = '/' :: ['/'].intercalate (location.map String.toList) := by
  simp [Location.path, String.toList_intercalate]

/-- The path of a location starts at the root. -/
theorem isAbsolute_path (location : Location) : Path.isAbsolute location.path := by
  simp [Path.isAbsolute, toList_path]

/-- The path of a location has a slash before each name. -/
theorem path_cons {name : String} {location : Location} (hne : location ≠ []) :
    Location.path (name :: location) = "/" ++ name ++ location.path := by
  rw [Location.path, String.intercalate_cons_of_ne_nil hne, Location.path, String.append_assoc,
    String.append_assoc]

/-- The path of a location is walked name by name; that of the root asks for the root itself. -/
theorem steps_path {location : Location} (hne : location ≠ [])
    (h : ∀ name ∈ location, name ≠ "" ∧ '/' ∉ name.toList) :
    Path.steps location.path = location := by
  have hslash : ∀ piece ∈ location.map String.toList, '/' ∉ piece := by
    simpa using fun name hname => (h name hname).2
  have hsplit : Text.split '/' location.path.toList = [] :: location.map String.toList := by
    rw [toList_path, Text.split]
    simp [Text.split_intercalate hslash (by simpa using hne)]
  have hnames : ∀ piece ∈ location.map String.toList, (!piece.isEmpty) = true := by
    simpa using fun name hname => (h name hname).1
  have hlast : ([] :: location.map String.toList).getLast? ≠ some [] := by
    intro hnil
    rw [List.getLast?_cons_of_ne_nil (by simpa using hne)] at hnil
    have := hnames [] (List.mem_of_getLast? hnil)
    simp at this
  simp only [Path.steps, hsplit, hlast, if_false]
  rw [List.filter_cons_of_neg (by simp), List.filter_eq_self.2 hnames, List.map_map]
  simp

end Location

namespace FileSystem

variable {fs : FileSystem} {fits : Location → Bool} {location : Location} {path : Path}

/-- The root stands. -/
theorem lookup_nil (fs : FileSystem) : fs.lookup [] = some .directory := by
  simp [lookup, isReached, listed]

/-- All names on the way to something are names that can stand in a directory. -/
theorem isName_of_stands (h : fs.Stands location) : ∀ name ∈ location, isName name := by
  obtain ⟨node, hnode, -⟩ := h
  have hreached := (lookup_eq_some_iff.1 hnode).1
  simp only [isReached, Bool.and_eq_true, List.all_eq_true] at hreached
  exact hreached.1

/-- Where something stands below a location, a directory stands at that location. -/
theorem directory_of_stands_append {here below : Location} (hne : below ≠ [])
    (h : fs.Stands (here ++ below)) : fs.lookup here = some .directory := by
  obtain ⟨node, hnode, -⟩ := h
  induction below using List.reverseRecOn generalizing node with
  | nil => exact absurd rfl hne
  | append_singleton front last ih =>
    rw [← List.append_assoc] at hnode
    have hdir := (directory_of_lookup_concat hnode).1
    by_cases hfront : front = []
    · simpa [hfront] using hdir
    · exact ih hfront .directory hdir

/-- Walking the names of something that stands below ends there. -/
theorem walkFrom_of_stands {follow : Location → List String → Except FileError Location}
    {here below : Location} (h : fs.Stands (here ++ below)) :
    fs.walkFrom (fun _ => true) follow here below = .ok (here ++ below) := by
  induction below generalizing here with
  | nil => simp [walkFrom]
  | cons name rest ih =>
    have hassoc : here ++ name :: rest = here ++ [name] ++ rest := by simp
    rw [hassoc] at h ⊢
    have hname : fs.Stands (here ++ [name]) := by
      by_cases hrest : rest = []
      · simpa [hrest] using h
      · exact ⟨.directory, directory_of_stands_append hrest h, by simp⟩
    simp only [walkFrom, enter_of_stands hname]
    exact ih h

/-- A path leads through fitting locations where it leads anyway, unless one does not fit. -/
theorem resolveWithin_eq_or_nameTooLong (fs : FileSystem) (fits : Location → Bool) (path : Path) :
    fs.resolveWithin fits path = fs.resolve path ∨
      fs.resolveWithin fits path = .error .nameTooLong := by
  unfold resolve resolveWithin
  split
  · exact .inl rfl
  · split
    · exact .inl rfl
    · exact walk_eq_or_nameTooLong fs fits _ _ _

/-- A path that leads somewhere through fitting locations leads there anyway. -/
theorem resolve_of_resolveWithin (h : fs.resolveWithin fits path = .ok location) :
    fs.resolve path = .ok location := by
  rcases resolveWithin_eq_or_nameTooLong fs fits path with heq | heq
  · rw [← heq, h]
  · rw [heq] at h; cases h

/-- Where a path leads, a file or a directory stands. -/
theorem stands_of_resolveWithin (h : fs.resolveWithin fits path = .ok location) :
    fs.Stands location := by
  simp only [resolveWithin] at h
  split at h
  · cases h
  split at h
  · cases h
  -- the walk has a first name, and that can only be entered from a directory
  obtain ⟨name, rest, hsteps⟩ := List.exists_cons_of_ne_nil (Path.steps_ne_nil path)
  have hstart : fs.lookup (if Path.isAbsolute path then [] else fs.cwd) = some .directory := by
    by_cases hdir : fs.lookup (if Path.isAbsolute path then [] else fs.cwd) = some .directory
    · exact hdir
    · exfalso
      have henter : ∀ passage,
          fs.enter fits (if Path.isAbsolute path then [] else fs.cwd) name ≠ .ok passage :=
        fun passage hpassage => hdir (stands_of_enter hpassage).1
      simp only [hsteps, maxLinks, walk, walkFrom] at h
      split at h
      · exact henter _ (by assumption)
      · exact henter _ (by assumption)
      · cases h
  exact stands_of_walk ⟨.directory, hstart, by simp⟩ h

/-- The path of something that stands has no null character. -/
theorem null_not_mem_path (h : fs.Stands location) : '\x00' ∉ (Location.path location).toList := by
  rw [Location.toList_path, List.mem_cons]
  rintro (hslash | hin)
  · exact absurd hslash (by decide)
  · rcases Text.mem_intercalate hin with hslash | ⟨piece, hpiece, hc⟩
    · exact absurd hslash (by decide)
    · obtain ⟨name, hmem, rfl⟩ := List.mem_map.1 hpiece
      have hname := isName_of_stands h name hmem
      simp_all [isName]

/-- The path of a location at which no link stands leads there. -/
theorem resolve_path (h : fs.Stands location) : fs.resolve location.path = .ok location := by
  have hname : ∀ name ∈ location, name ≠ "" ∧ '/' ∉ name.toList := by
    intro name hmem
    have := isName_of_stands h name hmem
    simp_all [isName]
  have hempty : (Location.path location).isEmpty = false := by
    rw [Bool.eq_false_iff, Ne, String.isEmpty_iff]
    intro hnil
    have := Location.toList_path location
    simp [hnil] at this
  have hwalk : fs.walk (fun _ => true) maxLinks [] (Path.steps location.path) = .ok location := by
    by_cases hroot : location = []
    · -- the path of the root asks for the root itself
      subst hroot
      have hsteps : Path.steps (Location.path []) = ["."] := by decide
      simp [hsteps, maxLinks, walk, walkFrom, enter, lookup_nil]
    · rw [Location.steps_path hroot hname]
      have hroot : fs.Stands ([] ++ location) := h
      exact walkFrom_of_stands hroot
  simpa [resolve, resolveWithin, null_not_mem_path h, hempty, Location.isAbsolute_path] using hwalk

/-- A path is made canonical where it leads, unless it is too long on the way. -/
theorem canonicalize_eq (fs : FileSystem) (path : Path) :
    fs.canonicalize path = (fs.resolve path).map Location.path ∨
      fs.canonicalize path = .error .nameTooLong := by
  unfold canonicalize
  rcases resolveWithin_eq_or_nameTooLong fs isOpenable path with heq | heq
  · exact .inl (by rw [heq])
  · exact .inr (by rw [heq]; rfl)

/-- A path that was made canonical leads to the location whose path it became. -/
theorem resolve_of_canonicalize {target : Path} (h : fs.canonicalize path = .ok target) :
    ∃ location, fs.Stands location ∧ fs.resolve path = .ok location ∧ target = location.path := by
  unfold canonicalize at h
  cases hlocation : fs.resolveWithin isOpenable path with
  | error e => rw [hlocation] at h; cases h
  | ok location =>
    rw [hlocation] at h
    cases h
    exact ⟨location, stands_of_resolveWithin hlocation, resolve_of_resolveWithin hlocation, rfl⟩

/-- Opening the path of a location at which no link stands opens that location, unless the path is
too long. -/
theorem locate_path (h : fs.Stands location) :
    fs.locate location.path =
      if isOpenable location then .ok location else .error .nameTooLong := by
  by_cases hsize : maxPathSize < (Location.path location).utf8ByteSize
  · simp [locate, isOpenable, hsize, null_not_mem_path h, Nat.not_le.2 hsize]
  · simp [locate, isOpenable, hsize, Nat.not_lt.1 hsize, resolve_path h]

/-- What a path opens is what it names. -/
theorem resolve_of_locate (h : fs.locate path = .ok location) : fs.resolve path = .ok location := by
  unfold locate at h
  split at h
  · cases h
  · exact h

/-- A path that can be opened in one file system is not too long to be opened in another. -/
theorem locate_eq_resolve (h : fs.locate path = .ok location) (other : FileSystem) :
    other.locate path = other.resolve path := by
  rw [locate] at h ⊢
  split at h
  next => cases h
  next hfits => rw [if_neg hfits]

/-- The location that is opened when a path is made canonical first. -/
def reopen (fs : FileSystem) (path : Path) : Except FileError Location :=
  fs.canonicalize path >>= fs.locate

/-- What is opened by the canonical path is what is opened by the path itself, unless the way there
is too long. -/
theorem reopen_eq_or_nameTooLong (h : fs.resolve path = .ok location) :
    fs.reopen path = .ok location ∨ fs.reopen path = .error .nameTooLong := by
  unfold reopen
  rcases canonicalize_eq fs path with heq | heq
  · rw [heq, h]
    have hopen := locate_path (stands_of_resolveWithin h)
    split at hopen
    · exact .inl hopen
    · exact .inr hopen
  · exact .inr (by rw [heq]; rfl)

/-- Where everything that there is can be opened by its path from the root, the canonical path opens
what the path itself names. -/
theorem reopen_of_fits (hfits : ∀ other node, fs.lookup other = some node → isOpenable other)
    (h : fs.resolve path = .ok location) : fs.reopen path = .ok location := by
  have hwithin : fs.resolveWithin isOpenable path = .ok location := by
    rw [resolve, resolveWithin] at h
    rw [resolveWithin]
    split at h
    · cases h
    · split at h
      · cases h
      next hnull hempty =>
        rw [if_neg hnull, if_neg hempty]
        exact walk_of_fits hfits h
  obtain ⟨node, hnode, hlink⟩ := stands_of_resolveWithin h
  have hopen := locate_path ⟨node, hnode, hlink⟩
  rw [if_pos (hfits location node hnode)] at hopen
  rw [reopen, canonicalize, hwithin]
  exact hopen

end FileSystem

end Graft
