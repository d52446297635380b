import Graft.Pattern.Diagnosis
import Graft.Proofs.Pattern.Window
import Graft.Proofs.Text.Pieces
import Mathlib.Data.Fintype.Basic

/-!
# What a diagnosis says

A diagnosis counts the positions at which a condition holds; whoever reads it looks at the lines
that the condition asks about. Both counts are the same, as every position has a line of its own at
the distance of the condition.

* `Condition.hits_eq_card_targets`: the hits of a condition, counted by lines.
* `Pattern.length_locateAll_le_hits`: no pattern matches more often than one of its conditions
  holds.
* `NearMiss.IsLineOf`, `Condition.isLineOf_of_nearest?`: what a near miss says of a line.
* `Pattern.diagnose_hits_closest`: what is reported is so.
-/

namespace Graft

variable {lines : List Line}

namespace Condition

variable {c : Condition} {miss : NearMiss}

/-- The lines that pass the test of a condition, as far as they are at its distance from the
position of a line. -/
def targets (c : Condition) (lines : List Line) : Finset (Fin lines.length) :=
  {target | c.test.passes lines[target] ∧ 0 ≤ (target : Int) - c.offset.toInt ∧
    (target : Int) - c.offset.toInt < lines.length}

/-- A condition holds at as many positions as there are lines that it asks about and that pass. -/
theorem hits_eq_card_targets (c : Condition) (lines : List Line) :
    c.hits lines = (c.targets lines).card := by
  have hcount : c.hits lines =
      ((Finset.range lines.length).filter fun index => c.holdsAt lines index).card := by
    have hfilter : (List.range lines.length).filter (c.holdsAt lines) =
        (List.range lines.length).filter fun index => decide (c.holdsAt lines index = true) := by
      simp only [Bool.decide_eq_true]
    rw [hits, List.countP_eq_length_filter, hfilter]
    rfl
  rw [hcount]
  symm
  -- a line is asked about from one position only
  refine Finset.card_bij (fun target _ => ((target : Int) - c.offset.toInt).toNat) ?_ ?_ ?_
  · intro target htarget
    simp only [targets, Finset.mem_filter_univ] at htarget
    obtain ⟨hpasses, hnonneg, hlt⟩ := htarget
    rw [Finset.mem_filter, Finset.mem_range, holdsAt_iff_window]
    exact ⟨by omega, target, target.isLt, by omega, hpasses⟩
  · intro target htarget target' htarget' heq
    simp only [targets, Finset.mem_filter_univ] at htarget htarget'
    refine Fin.ext ?_
    omega
  · intro index hindex
    rw [Finset.mem_filter, Finset.mem_range, holdsAt_iff_window] at hindex
    obtain ⟨hlt, target, htarget, hsum, hpasses⟩ := hindex
    refine ⟨⟨target, htarget⟩, ?_, ?_⟩
    · simp only [targets, Finset.mem_filter_univ]
      exact ⟨hpasses, by omega, by omega⟩
    · show ((target : Int) - c.offset.toInt).toNat = index
      omega

end Condition

namespace Pattern

variable {pattern : Pattern} {c : Condition}

/-- A pattern does not match more often than one of its conditions holds. -/
theorem length_locateAll_le_hits (hc : c ∈ pattern.conditions) :
    (pattern.locateAll lines).length ≤ c.hits lines := by
  rw [locateAll, ← List.countP_eq_length_filter, Condition.hits]
  refine List.countP_mono_left fun index _ hmatches => ?_
  exact Condition.holdsAt_iff_window.2 ((matchesAt_iff_window.1 hmatches).2 c hc)

/-- A pattern of one condition matches wherever that holds. -/
theorem length_locateAll_eq_hits (hpattern : pattern.conditions = [c]) :
    (pattern.locateAll lines).length = c.hits lines := by
  have hmatches : pattern.matchesAt lines = c.holdsAt lines := by
    funext index
    simp [matchesAt, isEmpty, hpattern]
  rw [locateAll, ← List.countP_eq_length_filter, Condition.hits, hmatches]

end Pattern

/-! ## The nearest line -/

/-- A near miss has the number of a line that is not blank, the text of that line, and how alike
this is to the text that the condition looks for. -/
structure NearMiss.IsLineOf (miss : NearMiss) (lines : List Line) : Prop where
  exists_line : ∃ (index : Nat) (_ : index < lines.length), miss.line = index + 1 ∧
    ¬Line.isBlank lines[index] ∧ (Line.body lines[index]).trim = miss.text
  exists_literal : ∃ literal, miss.condition.test.literal? = some literal ∧
    miss.similarity = .ofTexts literal.trim miss.text

namespace Condition

variable {c : Condition} {miss next : NearMiss} {best : Option NearMiss}

/-- The better of two near misses is one of them. -/
theorem nearer_eq_some (h : nearer best next = some miss) : best = some miss ∨ next = miss := by
  cases best with
  | none => exact .inr (Option.some.inj h)
  | some other =>
    rw [nearer] at h
    split at h
    · exact .inr (Option.some.inj h)
    · exact .inl h

/-- The nearest line is one of the lines, and is reported as it is. -/
theorem isLineOf_of_nearest? (h : c.nearest? lines = some miss) :
    miss.condition = c ∧ miss.IsLineOf lines := by
  rw [nearest?] at h
  split at h
  next => cases h
  next literal hliteral =>
    -- each line is passed over or takes the place of the best line before it
    refine List.foldlRecOn (motive := fun best => ∀ miss, best = some miss →
      miss.condition = c ∧ miss.IsLineOf lines) lines.zipIdx _ (by simp) ?_ miss h
    rintro best hbest ⟨line, index⟩ hline miss hmiss
    dsimp only at hmiss
    split at hmiss
    next hclose =>
      rcases nearer_eq_some hmiss with hsome | rfl
      · exact hbest miss hsome
      · obtain ⟨hindex, hget⟩ := List.getElem?_eq_some_iff.1 (List.mem_zipIdx_iff_getElem?.1 hline)
        simp only [Bool.and_eq_true, Bool.not_eq_true', List.isEmpty_eq_false_iff, ne_eq,
          Text.trim_eq_nil_iff] at hclose
        refine ⟨rfl, ⟨index, hindex, rfl, ?_, ?_⟩, literal, hliteral, rfl⟩
        · rw [hget]
          exact hclose.1
        · rw [hget]
    next => exact hbest miss hmiss

end Condition

/-! ## The diagnosis -/

namespace Pattern

variable {pattern : Pattern} {miss : NearMiss}

/-- What comes closest is told for the first condition that looks for a text and never holds. -/
theorem exists_of_closest (h : (pattern.diagnose lines).closest = some miss) :
    (∃ before after, (pattern.diagnose lines).hits = before ++ (miss.condition, 0) :: after ∧
      miss.condition.test.literal? ≠ none ∧
      ∀ entry ∈ before, entry.2 = 0 → entry.1.test.literal? = none) ∧ miss.IsLineOf lines := by
  obtain ⟨⟨c, n⟩, hfirst, hnearest⟩ := Option.bind_eq_some_iff.1 h
  obtain ⟨rfl, hline⟩ := Condition.isLineOf_of_nearest? hnearest
  obtain ⟨hfails, before, after, hhits, hbefore⟩ := List.find?_eq_some_iff_append.1 hfirst
  simp only [Bool.and_eq_true, decide_eq_true_eq, Option.isSome_iff_ne_none] at hfails
  obtain ⟨rfl, hliteral⟩ := hfails
  refine ⟨⟨before, after, hhits, hliteral, fun entry hentry hzero => ?_⟩, hline⟩
  simpa [hzero] using hbefore entry hentry

/-- A diagnosis lists the conditions of the pattern in order. For each it says how many lines pass
that the condition asks about from the position of a line. The pattern matches at no more positions
than that, at as many if there is no other condition, and nowhere if there is no such line. A
closest line is told for the first condition that looks for a text and never holds; it is a line
with that number and that text, and not blank. -/
theorem diagnose_hits_closest (pattern : Pattern) (lines : List Line) :
    (pattern.diagnose lines).hits.map Prod.fst = pattern.conditions ∧
      (∀ entry ∈ (pattern.diagnose lines).hits,
        entry.2 = (entry.1.targets lines).card ∧
          (pattern.locateAll lines).length ≤ entry.2 ∧
          (pattern.conditions.length = 1 → (pattern.locateAll lines).length = entry.2) ∧
          (entry.2 = 0 → pattern.locateAll lines = [])) ∧
      ∀ miss, (pattern.diagnose lines).closest = some miss →
        (∃ before after, (pattern.diagnose lines).hits = before ++ (miss.condition, 0) :: after ∧
          miss.condition.test.literal? ≠ none ∧
          ∀ entry ∈ before, entry.2 = 0 → entry.1.test.literal? = none) ∧
        miss.IsLineOf lines := by
  refine ⟨pattern.map_fst_hits_diagnose lines, fun entry hentry => ?_,
    fun miss hmiss => exists_of_closest hmiss⟩
  obtain ⟨c, hc, rfl⟩ := List.mem_map.1 hentry
  have hle : (pattern.locateAll lines).length ≤ c.hits lines := length_locateAll_le_hits hc
  refine ⟨c.hits_eq_card_targets lines, hle, fun hone => ?_, fun hzero => ?_⟩
  · obtain ⟨other, hother⟩ := List.length_eq_one_iff.1 hone
    obtain rfl : c = other := by simpa [hother] using hc
    exact length_locateAll_eq_hits hother
  · rw [← List.length_eq_zero_iff]
    exact Nat.le_zero.1 (hzero ▸ hle)

/-- The line below the candidate position has a letter too few. The line that has all of them is the
first, and below no line. -/
theorem diagnose_hits_closest_of_missing_letter :
    let c : Condition := ⟨1, .equals ['a', 'b', 'c']⟩
    let pattern : Pattern := ⟨[c]⟩
    let lines : List Line := [['a', 'b', 'c', '\n'], [' ', 'a', 'b', '\r', '\n']]
    let miss : NearMiss := ⟨c, 1, ['a', 'b', 'c'], ⟨0, 3⟩⟩
    ((c, 0) ∈ (pattern.diagnose lines).hits ∧ pattern.conditions.length = 1 ∧
        (pattern.diagnose lines).closest = some miss) ∧
      (c.targets lines).card = 0 ∧ (pattern.locateAll lines).length = 0 ∧
        pattern.locateAll lines = [] ∧ miss.IsLineOf lines := by
  intro c pattern lines miss
  have hentry : (c, 0) ∈ (pattern.diagnose lines).hits := by decide
  have hone : pattern.conditions.length = 1 := rfl
  have hmiss : (pattern.diagnose lines).closest = some miss := by decide
  obtain ⟨-, hhits, hclosest⟩ := diagnose_hits_closest pattern lines
  obtain ⟨hcard, -, hlength, hnone⟩ := hhits _ hentry
  exact ⟨⟨hentry, hone, hmiss⟩, hcard.symm, hlength hone, hnone rfl, (hclosest miss hmiss).2⟩

end Pattern

end Graft
