import Graft.Proofs.Edit.Commit

/-!
# Where paths lead while files change

Other bytes in a file change what is read of it and nothing else, so that every path leads to the
same place after any number of such changes.

* `FileSystem.SameLayout`: every path leads where it led.
* `FileSystem.readText_congr`: a path reads to what it read to, if nothing changed where it leads.
* `FileSystem.readText_setContent`: what a path reads to after a file got other bytes.
-/

namespace Graft.FileSystem

variable {fs after later : FileSystem} {location : Location} {path : Path} {content : ByteArray}

/-- Every path leads where it led, whichever locations fit. -/
def SameLayout (fs after : FileSystem) : Prop :=
  ∀ fits path, after.resolveWithin fits path = fs.resolveWithin fits path

namespace SameLayout

theorem refl (fs : FileSystem) : fs.SameLayout fs :=
  fun _ _ => rfl

theorem trans (h : fs.SameLayout after) (h' : after.SameLayout later) : fs.SameLayout later :=
  fun fits path => (h' fits path).trans (h fits path)

theorem setContent (fs : FileSystem) (location : Location) (content : ByteArray) :
    fs.SameLayout (fs.setContent location content) := by
  intro fits path
  have hcwd : (fs.setContent location content).cwd = fs.cwd := rfl
  rw [resolveWithin, resolveWithin, walk_setContent, hcwd]

theorem locate_eq (h : fs.SameLayout after) (path : Path) : after.locate path = fs.locate path := by
  have hresolve : after.resolve path = fs.resolve path := by
    rw [resolve, resolve]
    exact h _ path
  unfold locate
  rw [hresolve]

theorem reopen_eq (h : fs.SameLayout after) (path : Path) : after.reopen path = fs.reopen path := by
  have hcanonical : after.canonicalize path = fs.canonicalize path := by
    rw [canonicalize, canonicalize, h]
  have hlocate : after.locate = fs.locate := funext h.locate_eq
  rw [reopen, reopen, hcanonical, hlocate]

end SameLayout

/-- A path reads to what it read to, if nothing changed where it leads. -/
theorem readText_congr (hlayout : fs.SameLayout after)
    (hlookup : ∀ location, fs.locate path = .ok location →
      after.lookup location = fs.lookup location) :
    after.readText path = fs.readText path := by
  -- a text is read of one location, the same before and after
  have hbytes : after.readBytes path = fs.readBytes path := by
    rw [readBytes, readBytes, hlayout.locate_eq]
    cases hlocate : fs.locate path with
    | error e => rfl
    | ok location =>
      show after.contentAt location = fs.contentAt location
      rw [contentAt, contentAt, hlookup location hlocate]
  rw [readText, readText, hbytes]

/-- What stands elsewhere stays when a file gets other bytes. -/
theorem lookup_setContent_of_ne {other : Location} (h : other ≠ location) :
    (fs.setContent location content).lookup other = fs.lookup other := by
  rw [lookup_setContent]
  simp [h]

/-- Files at two locations get other bytes in either order. -/
theorem setContent_comm {other : Location} (h : location ≠ other) (content content' : ByteArray) :
    (fs.setContent location content).setContent other content' =
      (fs.setContent other content').setContent location content := by
  simp only [FileSystem.setContent, List.map_map, FileSystem.mk.injEq, and_true]
  refine List.map_congr_left fun entry _ => ?_
  -- an entry is for one of the two locations at most
  by_cases hfirst : entry.1 = location
  · simp [hfirst, h]
  · by_cases hsecond : entry.1 = other
    · simp [hsecond, h.symm]
    · simp [hfirst, hsecond]

theorem contentAt_setContent {old : ByteArray} (h : fs.contentAt location = .ok old) :
    (fs.setContent location content).contentAt location = .ok content := by
  obtain ⟨mode, hnode⟩ := contentAt_eq_ok_iff.1 h
  rw [contentAt_eq_ok_iff]
  exact ⟨mode, by rw [lookup_setContent, hnode]; simp [Node.withContent]⟩

/-- After a file got another text, a path reads to that text if it leads to the file, and to what it
read to if it does not. -/
theorem readText_setContent {old : ByteArray} (hold : fs.contentAt location = .ok old)
    (text : Text) (path : Path) :
    (fs.setContent location text.bytes).readText path =
      if fs.locate path = .ok location then .ok text else fs.readText path := by
  split
  next hlocate =>
    -- the path still leads to the file
    rw [readText_eq_ok_iff_contentAt]
    exact ⟨location, by rw [locate_setContent, hlocate], contentAt_setContent hold⟩
  next hother =>
    refine readText_congr (.setContent fs location _) fun other hlocate => ?_
    refine lookup_setContent_of_ne ?_
    rintro rfl
    exact hother hlocate

/-- The path that reads to a text leads to a file. -/
theorem contentAt_of_readText {text : Text} (htext : fs.readText path = .ok text)
    (hlocate : fs.locate path = .ok location) : fs.contentAt location = .ok text.bytes := by
  obtain ⟨location', hlocate', hcontent⟩ := readText_eq_ok_iff_contentAt.1 htext
  rw [hlocate] at hlocate'
  cases hlocate'
  exact hcontent

end Graft.FileSystem
