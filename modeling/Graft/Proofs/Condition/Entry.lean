import Graft.PatchFile
import Graft.Proofs.Condition.Grammar

/-!
# Two ways to give a condition

A condition is written on a command line, or it is given field by field as an anchor entry of a
patch file. Neither way lets an empty text be contained or started with, since every line would
pass. A blank line is looked for by the kind `blank`; an anchor entry can also ask for the trimmed
empty text, which is the same test by another name.

* `Condition.exists_spec_iff`, `Condition.exists_entry_iff`: the conditions that can be written, and
  those that an anchor entry can give.
* `Condition.exists_spec_iff_exists_entry`: which of the latter cannot be written, and what to write
  in their place.
-/

namespace Graft

namespace LineTest

theorem isLegal_iff {test : LineTest} :
    test.IsLegal ↔ test ≠ equalsTrimmed [] ∧ test ≠ contains [] ∧ test ≠ startsWith [] := by
  cases test <;> simp [IsLegal]

/-- The trimmed empty text is the text of a blank line. -/
theorem passes_equalsTrimmed_nil (line : Line) :
    (equalsTrimmed []).passes line = blank.passes line := by
  have hnil : Text.trim [] = [] := rfl
  rw [Bool.eq_iff_iff]
  simp only [passes, hnil, decide_eq_true_eq]
  exact Text.trim_eq_nil_iff

end LineTest

namespace AnchorEntry

variable {entry : AnchorEntry} {c : Condition}

/-- An anchor entry gives its only test, at its offset, unless an empty text is to be contained or
started with. -/
theorem condition_eq_ok_iff :
    entry.condition = .ok c ↔ entry.contains ≠ some [] ∧ entry.startsWith ≠ some [] ∧
      entry.tests = [c.test] ∧ entry.offset = c.offset := by
  obtain ⟨offset, test⟩ := c
  -- the entry is refused for its empty texts before its tests are counted
  rw [condition]
  split
  next hcontains => simp [hcontains]
  next hcontains =>
    split
    next hstarts => simp [hstarts]
    next hstarts =>
      split
      next only hone =>
        simp [hcontains, hstarts, hone, and_comm]
      next hnone => simp [hnone]
      next hseveral _ =>
        simp only [reduceCtorEq, false_iff]
        exact fun h => hseveral test h.2.2.1

theorem mem_tests_contains {text : Text} :
    LineTest.contains text ∈ entry.tests ↔ entry.contains = some text := by
  simp [tests]

theorem mem_tests_startsWith {text : Text} :
    LineTest.startsWith text ∈ entry.tests ↔ entry.startsWith = some text := by
  simp [tests]

end AnchorEntry

namespace Condition

variable {c : Condition}

/-- The anchor entry that has the test of a condition and no other. -/
def toEntry (c : Condition) : AnchorEntry :=
  match c.test with
  | .equals text => { offset := c.offset, equals := some text }
  | .equalsTrimmed text => { offset := c.offset, equalsTrimmed := some text }
  | .contains text => { offset := c.offset, contains := some text }
  | .startsWith text => { offset := c.offset, startsWith := some text }
  | .blank => { offset := c.offset, blank := true }

/-- An entry can give every condition but those with an empty text to contain or to start with. -/
theorem exists_entry_iff : (∃ entry : AnchorEntry, entry.condition = .ok c) ↔
    c.test ≠ .contains [] ∧ c.test ≠ .startsWith [] := by
  constructor
  · rintro ⟨entry, hentry⟩
    obtain ⟨hcontains, hstarts, htests, -⟩ := AnchorEntry.condition_eq_ok_iff.1 hentry
    -- the test is one of the entry's, whose texts are not empty where they may not be
    have hmem : c.test ∈ entry.tests := htests ▸ List.mem_singleton_self _
    constructor
    · intro htest
      exact hcontains (AnchorEntry.mem_tests_contains.1 (htest ▸ hmem))
    · intro htest
      exact hstarts (AnchorEntry.mem_tests_startsWith.1 (htest ▸ hmem))
  · rintro ⟨hcontains, hstarts⟩
    refine ⟨c.toEntry, AnchorEntry.condition_eq_ok_iff.2 ?_⟩
    obtain ⟨offset, test⟩ := c
    cases test <;> simp_all [toEntry, AnchorEntry.tests]

/-- A condition can be written if its test can. -/
theorem exists_spec_iff : (∃ spec, ofSpec spec = .ok c) ↔ c.test.IsLegal := by
  constructor
  · rintro ⟨spec, hspec⟩
    obtain ⟨_, _, _, -, -, hnamed⟩ := ofSpec_eq_ok_iff.1 hspec
    exact hnamed.isLegal
  · exact fun hlegal => ⟨c.toSpec, ofSpec_of_isWritten (isWritten_toSpec hlegal)⟩

/-- An anchor entry can give every condition but those with an empty text to contain or to start
with, and all that it can give can be written on a command line, except for the trimmed empty text.
Nothing is lost by that: for each condition that an anchor entry gives, one can be written that
holds at the same positions of all lines. -/
theorem exists_spec_iff_exists_entry (c : Condition) :
    ((∃ entry : AnchorEntry, entry.condition = .ok c) ↔
      c.test ≠ .contains [] ∧ c.test ≠ .startsWith []) ∧
    ((∃ spec, ofSpec spec = .ok c) ↔
      (∃ entry : AnchorEntry, entry.condition = .ok c) ∧ c.test ≠ .equalsTrimmed []) ∧
    ((∃ entry : AnchorEntry, entry.condition = .ok c) →
      ∃ spec written, ofSpec spec = .ok written ∧
        ∀ lines index, written.holdsAt lines index = c.holdsAt lines index) := by
  refine ⟨exists_entry_iff, ?_, fun hentry => ?_⟩
  · rw [exists_spec_iff, exists_entry_iff, LineTest.isLegal_iff]
    exact and_comm
  · by_cases htest : c.test = .equalsTrimmed []
    · -- a blank line is asked for in its place
      have hlegal : (Condition.mk c.offset .blank).test.IsLegal := trivial
      obtain ⟨spec, hspec⟩ := exists_spec_iff.2 hlegal
      have hpasses : LineTest.blank.passes = c.test.passes := by
        funext line
        rw [htest, LineTest.passes_equalsTrimmed_nil]
      refine ⟨spec, _, hspec, fun lines index => ?_⟩
      rw [holdsAt, holdsAt, hpasses]
      rfl
    · have hlegal : c.test.IsLegal := LineTest.isLegal_iff.2 ⟨htest, exists_entry_iff.1 hentry⟩
      obtain ⟨spec, hspec⟩ := exists_spec_iff.2 hlegal
      exact ⟨spec, c, hspec, fun _ _ => rfl⟩

/-- What to write in place of the trimmed empty text. -/
theorem exists_spec_of_trimmed_empty_text :
    let c : Condition := ⟨-1, .equalsTrimmed []⟩
    (∃ entry : AnchorEntry, entry.condition = .ok c) ∧
      ∃ spec written, ofSpec spec = .ok written ∧
        ∀ lines index, written.holdsAt lines index = c.holdsAt lines index := by
  intro c
  have hentry : ∃ entry : AnchorEntry, entry.condition = .ok c :=
    ⟨{ offset := -1, equalsTrimmed := some [] }, by decide⟩
  exact ⟨hentry, (exists_spec_iff_exists_entry c).2.2 hentry⟩

/-- The trimmed empty text can be asked for in an anchor entry and not on a command line. -/
theorem trimmed_empty_text_is_not_written :
    ¬((∃ spec, ofSpec spec = .ok ⟨0, .equalsTrimmed []⟩) ↔
      ∃ entry : AnchorEntry, entry.condition = .ok ⟨0, .equalsTrimmed []⟩) := by
  rw [exists_spec_iff, exists_entry_iff]
  simp [LineTest.IsLegal]

end Condition

end Graft
