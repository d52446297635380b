import Graft.Block
import Graft.Failure
import Graft.Snapshot

/-!
# Edits

An edit puts a block before or after the first line at which a pattern matches. Unless told
otherwise, it leaves a file alone that has the block already. Planning an edit on a snapshot says
what would be done, and does nothing.

* `Edit.plan`: the verdict on a snapshot, or why there is none.
* `Edit.attempt_eq_ok_plan`: a block never goes in where the lines have no position for it.
-/

namespace Graft

/-- On which side of the anchor line a block goes. -/
inductive Placement
  /-- Above the anchor line. -/
  | before
  /-- Below the anchor line. -/
  | after
  deriving DecidableEq, Repr

/-- The index to insert at for an anchor line. -/
def Placement.index : Placement → (anchor : Nat) → Nat
  | before, anchor => anchor
  | after, anchor => anchor + 1

/-- A block goes in at the anchor line or right below it. -/
theorem Placement.index_le (placement : Placement) (anchor : Nat) :
    placement.index anchor ≤ anchor + 1 := by
  cases placement <;> simp [Placement.index]

/-- What to insert, and where. -/
structure Edit where
  /-- The pattern that matches at the anchor line. -/
  pattern : Pattern
  /-- The lines to insert. -/
  block : Block
  /-- The side of the anchor line. -/
  placement : Placement := .after
  /-- Whether a file that has the block already is left alone. -/
  skipIfPresent : Bool := true
  deriving DecidableEq, Repr

/-- A planned insertion. -/
structure Insertion where
  /-- The index of the anchor line. -/
  anchor : Nat
  /-- The index at which the block goes in. -/
  index : Nat
  /-- At how many positions the pattern matches. -/
  matchCount : Nat
  /-- How many lines go in. -/
  inserted : Nat
  /-- All lines afterwards. -/
  lines : List Line
  deriving DecidableEq, Repr

namespace Insertion

/-- The number of the first inserted line, from one on. -/
def lineNumber (insertion : Insertion) : Nat :=
  insertion.index + 1

/-- The text afterwards. -/
def text (insertion : Insertion) : Text :=
  insertion.lines.flatten

end Insertion

/-- What planning an edit comes to. -/
inductive Verdict
  /-- The block goes in. -/
  | insert (insertion : Insertion)
  /-- The block is there, from this line number on. -/
  | alreadyPresent (line : Nat)
  deriving DecidableEq, Repr

namespace Edit

/-- The anchor line of an edit: the first line at which its pattern matches. -/
def anchor? (edit : Edit) (lines : List Line) : Option Nat :=
  edit.pattern.locate? lines

/-- The lines that a block is put into at `index`. An unterminated last line would run together with
a block after it, so it is terminated first. -/
def base (lines : List Line) (ending : LineEnding) (index : Nat) : List Line :=
  if index = lines.length then
    lines.dropLast ++ lines.getLast?.toList.map (Line.terminate ending)
  else lines

/-- The insertion of a block for an anchor line, if the lines have such a position. -/
def insertionAt (edit : Edit) (snapshot : Snapshot) (matchCount anchor : Nat) :
    Except OutOfBounds Insertion :=
  let index := edit.placement.index anchor
  let block := (edit.block.withEnding snapshot.ending).lines
  (insertLines (base snapshot.lines snapshot.ending index) index block).map fun lines =>
    { anchor := anchor
      index := index
      matchCount := matchCount
      inserted := block.length
      lines := lines }

/-- Where the block stands in the snapshot already, if that counts. -/
def present? (edit : Edit) (snapshot : Snapshot) : Option Nat :=
  if edit.skipIfPresent then edit.block.find? snapshot.lines else none

/-- The verdict on a snapshot, unless the block would go in where the lines have no position. -/
def attempt (edit : Edit) (snapshot : Snapshot) :
    Except OutOfBounds (Except Failure Verdict) :=
  -- a block that could never be found again is refused before anything is looked for
  if edit.block.core.isEmpty then .ok (.error (.emptyBlock snapshot.path))
  else
    match edit.present? snapshot with
    | some index => .ok (.ok (.alreadyPresent (index + 1)))
    | none =>
      -- all anchors are counted, the first one is used
      let anchors := edit.pattern.locateAll snapshot.lines
      match anchors with
      | [] => .ok (.error (.anchorNotFound snapshot.path (edit.pattern.diagnose snapshot.lines)))
      | anchor :: _ =>
        (edit.insertionAt snapshot anchors.length anchor).map fun insertion =>
          .ok (.insert insertion)

/-- Terminating the last line does not change how many lines there are. -/
@[simp]
theorem length_base (lines : List Line) (ending : LineEnding) (index : Nat) :
    (base lines ending index).length = lines.length := by
  unfold base
  split
  · rcases List.eq_nil_or_concat lines with rfl | ⟨front, last, rfl⟩ <;> simp
  · rfl

/-- A block always has a position at the line of an anchor. -/
theorem insertionAt_of_lt (edit : Edit) {snapshot : Snapshot} (matchCount : Nat) {anchor : Nat}
    (h : anchor < snapshot.lines.length) :
    edit.insertionAt snapshot matchCount anchor =
      let index := edit.placement.index anchor
      let block := (edit.block.withEnding snapshot.ending).lines
      let base := base snapshot.lines snapshot.ending index
      .ok
        { anchor := anchor
          index := index
          matchCount := matchCount
          inserted := block.length
          lines := base.take index ++ block ++ base.drop index } := by
  have hindex : edit.placement.index anchor ≤ snapshot.lines.length :=
    Nat.le_trans (edit.placement.index_le anchor) h
  simp [insertionAt, insertLines, hindex, Except.map]

/-- No block goes in where the lines have no position. -/
theorem attempt_ne_error (edit : Edit) (snapshot : Snapshot) (e : OutOfBounds) :
    edit.attempt snapshot ≠ .error e := by
  unfold attempt
  split
  · simp
  · split
    · simp
    · simp only
      split
      · simp
      · rename_i anchor rest found
        have hlt : anchor < snapshot.lines.length :=
          Pattern.lt_length_of_mem_locateAll (found ▸ List.mem_cons_self)
        simp [edit.insertionAt_of_lt _ hlt, Except.map]

/-- The verdict on a snapshot. -/
def plan (edit : Edit) (snapshot : Snapshot) : Except Failure Verdict :=
  match h : edit.attempt snapshot with
  | .ok result => result
  | .error e => absurd h (edit.attempt_ne_error snapshot e)

/-- The verdict is what the attempt comes to. -/
theorem attempt_eq_ok_plan (edit : Edit) (snapshot : Snapshot) :
    edit.attempt snapshot = .ok (edit.plan snapshot) := by
  unfold plan
  split
  · assumption
  · rename_i e h
    exact absurd h (edit.attempt_ne_error snapshot e)

/-- A plan is known from the attempt. -/
theorem plan_eq_iff {edit : Edit} {snapshot : Snapshot} {result : Except Failure Verdict} :
    edit.plan snapshot = result ↔ edit.attempt snapshot = .ok result := by
  rw [attempt_eq_ok_plan, Except.ok.injEq]

/-- Nothing is inserted unless the block has a core, does not count as present, and has an anchor;
then it goes in for the first anchor. -/
theorem plan_eq_insert_iff {edit : Edit} {snapshot : Snapshot} {insertion : Insertion} :
    edit.plan snapshot = .ok (.insert insertion) ↔
      edit.block.core ≠ [] ∧ edit.present? snapshot = none ∧
        ∃ anchor rest, edit.pattern.locateAll snapshot.lines = anchor :: rest ∧
          edit.insertionAt snapshot (rest.length + 1) anchor = .ok insertion := by
  rw [plan_eq_iff, attempt]
  cases hcore : edit.block.core with
  | nil => simp
  | cons line core =>
    cases hpresent : edit.present? snapshot with
    | some index => simp
    | none =>
      cases hanchors : edit.pattern.locateAll snapshot.lines with
      | nil => simp
      | cons anchor rest =>
        cases hinsertion : edit.insertionAt snapshot (rest.length + 1) anchor with
        | error e => simp [hinsertion, Except.map]
        | ok planned =>
          simp only [hinsertion, Except.map, List.isEmpty_cons, Bool.false_eq_true, if_false,
            List.length_cons, Except.ok.injEq, Verdict.insert.injEq, ne_eq, reduceCtorEq,
            not_false_eq_true, true_and, List.cons.injEq]
          constructor
          · rintro rfl
            exact ⟨anchor, rest, ⟨rfl, rfl⟩, hinsertion⟩
          · rintro ⟨_, _, ⟨rfl, rfl⟩, h⟩
            rw [hinsertion] at h
            exact Except.ok.inj h

/-- A block counts as present where it is found, if it has a core. -/
theorem plan_eq_alreadyPresent_iff {edit : Edit} {snapshot : Snapshot} {line : Nat} :
    edit.plan snapshot = .ok (.alreadyPresent line) ↔
      edit.block.core ≠ [] ∧ ∃ index, edit.present? snapshot = some index ∧ line = index + 1 := by
  rw [plan_eq_iff, attempt]
  cases hcore : edit.block.core with
  | nil => simp
  | cons first core =>
    cases hpresent : edit.present? snapshot with
    | some index => simp [eq_comm]
    | none =>
      cases hanchors : edit.pattern.locateAll snapshot.lines with
      | nil => simp
      | cons anchor rest =>
        cases hinsertion : edit.insertionAt snapshot (rest.length + 1) anchor <;>
          simp [hinsertion, Except.map]

/-- There is no verdict where the block is empty or has no anchor. -/
theorem plan_eq_error_iff {edit : Edit} {snapshot : Snapshot} {e : Failure} :
    edit.plan snapshot = .error e ↔
      (edit.block.core = [] ∧ e = .emptyBlock snapshot.path) ∨
        (edit.block.core ≠ [] ∧ edit.present? snapshot = none ∧
          edit.pattern.locateAll snapshot.lines = [] ∧
          e = .anchorNotFound snapshot.path (edit.pattern.diagnose snapshot.lines)) := by
  rw [plan_eq_iff, attempt]
  cases hcore : edit.block.core with
  | nil => simp only [List.isEmpty_nil, if_true, Except.ok.injEq, Except.error.injEq, ne_eq,
      not_true_eq_false, false_and, or_false, true_and, eq_comm]
  | cons first core =>
    cases hpresent : edit.present? snapshot with
    | some index => simp
    | none =>
      cases hanchors : edit.pattern.locateAll snapshot.lines with
      | nil => simp [eq_comm]
      | cons anchor rest =>
        cases hinsertion : edit.insertionAt snapshot (rest.length + 1) anchor <;>
          simp [hinsertion, Except.map]

end Edit

end Graft
