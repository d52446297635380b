import Graft.Proofs.Block.Core
import Graft.Proofs.Edit.Plan
import Graft.Proofs.Edit.Run
import Graft.Proofs.FileSystem.Layout

/-!
# What an edit leaves in place

An insertion puts text in at one place, so that nothing of the text before is lost, moved or
reordered. Everything but the content of files stays as it is.

* `Edit.exists_split_of_plan`: a planned insertion cuts the text in two, behind a newline unless it
  is at an end, and puts something between the parts.
* `FileSystem.Keeps`: everything that there was is there, and nothing else; files have at least the
  text that they had.
* `Edit.keeps_run`: a run keeps everything, whatever it comes to.
-/

namespace Graft

/-- What the old bytes held is kept in the new ones: text may have been put into a text, and bytes
that are no text are the same. -/
def Text.KeptIn (old new : ByteArray) : Prop :=
  match ofBytes? old with
  | some text => ∃ later, ofBytes? new = some later ∧ text.Sublist later
  | none => new = old

namespace Text.KeptIn

variable {old new later : ByteArray}

theorem refl (old : ByteArray) : Text.KeptIn old old := by
  unfold Text.KeptIn
  split
  next text htext => exact ⟨text, htext, .refl text⟩
  next => rfl

theorem trans (h : Text.KeptIn old new) (h' : Text.KeptIn new later) : Text.KeptIn old later := by
  unfold Text.KeptIn at h h' ⊢
  cases hold : ofBytes? old with
  | none =>
    simp only [hold] at h ⊢
    subst h
    simpa only [hold] using h'
  | some text =>
    simp only [hold] at h ⊢
    obtain ⟨middle, hmiddle, hsub⟩ := h
    simp only [hmiddle] at h'
    obtain ⟨last, hlast, hsub'⟩ := h'
    exact ⟨last, hlast, hsub.trans hsub'⟩

theorem of_sublist {text text' : Text} (h : text.Sublist text') :
    Text.KeptIn text.bytes text'.bytes := by
  simp only [Text.KeptIn, ofBytes?_bytes]
  exact ⟨text', rfl, h⟩

end Text.KeptIn

namespace FileSystem

variable {fs after later : FileSystem} {location : Location}

/-- Everything that stood somewhere stands there, and nothing else does: directories and links are
the same, and files have the modes that they had and hold what they held. -/
structure Keeps (fs after : FileSystem) : Prop where
  /-- A file stays a file with its mode, and holds what it held. -/
  lookup_file : ∀ location bytes mode, fs.lookup location = some (.file bytes mode) →
    ∃ bytes', after.lookup location = some (.file bytes' mode) ∧ Text.KeptIn bytes bytes'
  /-- Where there was no file, there is what there was. -/
  lookup_other : ∀ location, (∀ bytes mode, fs.lookup location ≠ some (.file bytes mode)) →
    after.lookup location = fs.lookup location

namespace Keeps

theorem refl (fs : FileSystem) : fs.Keeps fs where
  lookup_file _ bytes _ hfile := ⟨bytes, hfile, .refl bytes⟩
  lookup_other _ _ := rfl

theorem trans (h : fs.Keeps after) (h' : after.Keeps later) : fs.Keeps later where
  lookup_file location bytes mode hfile := by
    obtain ⟨bytes', hfile', hkept⟩ := h.lookup_file location bytes mode hfile
    obtain ⟨bytes'', hfile'', hkept'⟩ := h'.lookup_file location bytes' mode hfile'
    exact ⟨bytes'', hfile'', hkept.trans hkept'⟩
  lookup_other location hother := by
    have hsame := h.lookup_other location hother
    rw [h'.lookup_other location (by rwa [hsame]), hsame]

/-- A file that gets more text in its text keeps what it held, and everything else stays. -/
theorem setContent {text new : Text} (hcontent : fs.contentAt location = .ok text.bytes)
    (hsub : text.Sublist new) : fs.Keeps (fs.setContent location new.bytes) := by
  obtain ⟨mode, hnode⟩ := contentAt_eq_ok_iff.1 hcontent
  constructor
  · intro other bytes mode' hfile
    by_cases hother : other = location
    · subst hother
      obtain ⟨rfl, rfl⟩ : text.bytes = bytes ∧ mode = mode' := by simpa [hnode] using hfile
      exact ⟨new.bytes, by rw [lookup_setContent, hnode]; simp [Node.withContent],
        .of_sublist hsub⟩
    · exact ⟨bytes, by rw [lookup_setContent, hfile]; simp [hother], .refl bytes⟩
  · intro other hother
    have hne : other ≠ location := by
      rintro rfl
      exact hother text.bytes mode hnode
    rw [lookup_setContent]
    simp [hne]

end Keeps

end FileSystem

namespace Edit

variable {edit : Edit} {path : Path} {text : Text} {insertion : Insertion}

/-- A planned insertion cuts the text in two, behind a newline unless it is at an end, and puts
something between the parts. -/
theorem exists_split_of_plan (h : edit.plan (.ofText path text) = .ok (.insert insertion)) :
    ∃ front added back, text = front ++ back ∧ insertion.text = front ++ added ++ back ∧
      added ≠ [] ∧ (front = [] ∨ front.getLast? = some '\n' ∨ back = []) := by
  obtain ⟨hne, hindex, hlines⟩ := lines_of_plan h
  -- the block is added, behind the ending that the last line lacks if the block comes after it
  refine ⟨(text.lines.take insertion.index).flatten,
    gap text (.detect text) insertion.index ++
      (edit.block.withEnding (.detect text)).lines.flatten,
    (text.lines.drop insertion.index).flatten, ?_, ?_, ?_, ?_⟩
  · rw [← List.flatten_append, List.take_append_drop, Text.flatten_lines]
  · simp only [Insertion.text, hlines, List.flatten_append, drop_base hindex,
      flatten_take_base text hne hindex, List.append_assoc]
  · obtain ⟨hcore, -⟩ := plan_eq_insert_iff.1 h
    exact fun hnil => edit.block.flatten_withEnding_ne_nil hcore _ (List.append_eq_nil_iff.1 hnil).2
  · rcases Nat.lt_or_eq_of_le hindex with hlt | heq
    · rw [← or_assoc]
      exact .inl (Line.flatten_eq_nil_or_getLast? fun line =>
        (Text.isCut_lines text).isTerminated_of_mem_take hlt)
    · rw [heq, List.drop_length]
      exact .inr (.inr rfl)

/-- Nothing of a text is lost, moved or reordered by an insertion. -/
theorem sublist_of_plan (h : edit.plan (.ofText path text) = .ok (.insert insertion)) :
    text.Sublist insertion.text := by
  obtain ⟨front, added, back, rfl, htext, -⟩ := exists_split_of_plan h
  rw [htext]
  exact (List.sublist_append_left front added).append (.refl back)

/-- A run keeps everything that there is, whatever it comes to. -/
theorem keeps_run (edit : Edit) (fs : FileSystem) (path : Path) (mode : Mode) :
    fs.Keeps (edit.run fs path mode).2 := by
  rcases run_cases edit fs path with
    ⟨e, -, hrun⟩ | ⟨line, hrun⟩ | ⟨text, insertion, htext, hread, hplan⟩
  · rw [hrun]
    exact .refl fs
  · rw [hrun]
    exact .refl fs
  · cases mode with
    | preview =>
      rw [run_preview_of_insert hread hplan]
      exact .refl fs
    | apply =>
      rw [run_apply_of_insert hread hplan]
      cases hopen : fs.reopen path with
      | error e => exact .refl fs
      | ok location =>
        -- what is opened by the canonical path is the file that was read
        have hlocate := FileSystem.locate_of_reopen htext hopen
        exact .setContent (FileSystem.contentAt_of_readText htext hlocate) (sublist_of_plan hplan)

end Edit

end Graft
