import Graft.Proofs.Edit.Again
import Graft.Proofs.Edit.Run

/-!
# Blank texts and blocks without a core

Whether there is anything in a text besides white space can be asked of the whole text, of its lines
one by one, or of the block that it makes.

* `Text.isBlank_iff`: a text is blank exactly when each of its lines is.
* `Block.core_ofText_eq_nil_iff`: the block of a text has no core exactly when the text is blank.
* `Edit.run_ne_emptyBlock`: an edit whose block has a core is never refused as empty.
-/

namespace Graft

namespace Line

variable {line : Line} {ending : LineEnding}

/-- The terminator of a line is white space, so that the body decides whether the line is blank. -/
theorem isBlank_eq_isBlank_chars (line : Line) : isBlank line = Text.isBlank line := by
  by_cases hterm : line.isTerminated
  · obtain ⟨body, rfl⟩ := isTerminated_iff.1 hterm
    have hspace : Text.isSpace '\n' = true := by decide
    have hblank := isBlank_append_chars body .lf
    rw [LineEnding.chars] at hblank
    rw [hblank, Text.isBlank, Text.isBlank, List.all_append]
    simp [hspace]
  · rw [isBlank, Line.body, if_neg hterm]

theorem isBlank_terminate (line : Line) (ending : LineEnding) :
    isBlank (terminate ending line) = isBlank line := by
  rw [terminate]
  split
  next => rfl
  next hterm => rw [isBlank_append_chars, isBlank_eq_isBlank_chars]

end Line

/-- A text is blank exactly when each of its lines is. -/
theorem Text.isBlank_iff {t : Text} : Text.isBlank t ↔ ∀ line ∈ t.lines, line.isBlank := by
  have hlines : ∀ lines : List Line, Text.isBlank lines.flatten ↔ ∀ line ∈ lines, line.isBlank := by
    intro lines
    simp only [Line.isBlank_eq_isBlank_chars, Text.isBlank, List.all_flatten, List.all_eq_true]
  rw [← hlines, Text.flatten_lines]

namespace Block

/-- The block of a text has no core exactly when the text is blank. -/
theorem core_ofText_eq_nil_iff {t : Text} : (ofText t).core = [] ↔ t.isBlank := by
  rw [core_eq_nil_iff, Text.isBlank_iff, ofText]
  simp only [List.mem_map, forall_exists_index, and_imp, forall_apply_eq_imp_iff₂,
    Line.isBlank_terminate]

end Block

namespace Edit

variable {edit : Edit} {fs : FileSystem} {path : Path} {mode : Mode}

/-- A block without a core is refused whatever is read. -/
theorem plan_of_core_eq_nil (hcore : edit.block.core = []) (snapshot : Snapshot) :
    edit.plan snapshot = .error (.emptyBlock snapshot.path) :=
  plan_eq_error_iff.2 (.inl ⟨hcore, rfl⟩)

/-- An edit whose block has a core is never refused as empty. -/
theorem run_ne_emptyBlock (hcore : edit.block.core ≠ []) (other : Path) :
    (edit.run fs path mode).1 ≠ .error (.emptyBlock other) := by
  cases hread : Snapshot.read fs path with
  | error e =>
    obtain ⟨cause, rfl⟩ := Snapshot.read_eq_error hread
    simp [run, hread]
  | ok snapshot =>
    cases hplan : edit.plan snapshot with
    | error e =>
      rcases plan_eq_error_iff.1 hplan with ⟨hnil, -⟩ | ⟨-, -, -, rfl⟩
      · exact absurd hnil hcore
      · simp [run, hread, hplan]
    | ok verdict =>
      cases verdict with
      | alreadyPresent line => simp [run, hread, hplan]
      | insert insertion =>
        -- what may go wrong from here on is the writing
        cases mode with
        | preview => simp [run_preview_of_insert hread hplan]
        | apply =>
          rw [run_apply_of_insert hread hplan]
          split <;> simp

end Edit

end Graft
