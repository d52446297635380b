import Graft.Pattern.Word
import Graft.Proofs.Edit.Plan

/-!
# Windows of a pattern

A pattern looks at the lines at fixed signed distances from a candidate position. Distances and
positions are integers here, so that a window may reach over both ends of the lines. A search that
runs has them in words of 64 bits, and comes to the same: no sum of them that goes round is taken
for a position.

* `Pattern.MatchesWindow`: what it is for a pattern to match, in integers.
* `displace?_eq_some_iff`: a displaced word is the sum of two integers, never one that went round.
* `Pattern.matchesAtWord_iff_window`, `Pattern.matchesAt_iff_window`: matching is what it is in
  integers, for every word that is a position.
* `Pattern.search_window`: the same for whole searches, which no order and no repetition of the
  conditions changes.
-/

namespace Graft

variable {lines : List Line} {index : Nat}

/-! ## Words and integers -/

/-- A displaced word is the sum of two integers, never one that went round. -/
theorem displace?_eq_some_iff {index : UInt64} {offset : Int64} {target : UInt64} :
    displace? index offset = some target ↔ (target.toNat : Int) = index.toNat + offset.toInt := by
  have hindex := index.toBitVec.isLt
  have hoffset := offset.toBitVec.isLt
  have htarget := target.toNat_lt
  have hword : index.toBitVec.toNat = index.toNat := rfl
  -- the sum of the words, and the integer that the bits of the offset stand for
  have hsum : (index + offset.toUInt64).toNat =
      (index.toNat + offset.toBitVec.toNat) % 18446744073709551616 := UInt64.toNat_add _ _
  have hint : offset.toInt = if 2 * offset.toBitVec.toNat < 18446744073709551616 then
      (offset.toBitVec.toNat : Int) else offset.toBitVec.toNat - 18446744073709551616 :=
    BitVec.toInt_eq_toNat_cond _
  have hneg : offset < 0 ↔ offset.toInt < 0 := Int64.lt_iff_toInt_lt
  simp only [displace?, BitVec.uaddOverflow, hneg, hword, Option.ite_none_right_eq_some,
    Option.some.injEq, decide_eq_decide, ← UInt64.toNat_inj, hsum]
  split at hint <;> omega

/-! ## Conditions -/

namespace Condition

variable {c : Condition}

/-- A condition holds at a position if the position at the signed distance from it is that of a line
that passes the test. -/
def HoldsInWindow (c : Condition) (lines : List Line) (index : Nat) : Prop :=
  ∃ (target : Nat) (h : target < lines.length),
    (target : Int) = index + c.offset.toInt ∧ c.test.passes lines[target]

theorem holdsAt_iff_window : c.holdsAt lines index ↔ c.HoldsInWindow lines index := by
  rw [holdsAt_iff, HoldsInWindow]
  constructor
  · rintro ⟨line, hline, hpasses⟩
    rw [line?] at hline
    split at hline
    next => cases hline
    next hneg =>
      obtain ⟨htarget, rfl⟩ := List.getElem?_eq_some_iff.1 hline
      exact ⟨_, htarget, Int.toNat_of_nonneg (Int.not_lt.1 hneg), hpasses⟩
  · rintro ⟨target, htarget, hsum, hpasses⟩
    refine ⟨lines[target], ?_, hpasses⟩
    have hnonneg : ¬((target : Int) < 0) := by omega
    rw [line?, ← hsum, if_neg hnonneg, Int.toNat_natCast, List.getElem?_eq_getElem htarget]

/-- With positions in words a condition holds at the same positions, if the lines can be counted in
words. -/
theorem holdsAtWord_iff_window {index : UInt64} (hlength : lines.length < UInt64.size) :
    c.holdsAtWord lines index ↔ c.HoldsInWindow lines index.toNat := by
  rw [holdsAtWord, Option.any_eq_true, HoldsInWindow]
  simp only [wordLine?, Option.bind_eq_some_iff]
  constructor
  · rintro ⟨line, ⟨target, hdisplace, hline⟩, hpasses⟩
    obtain ⟨htarget, rfl⟩ := List.getElem?_eq_some_iff.1 hline
    exact ⟨target.toNat, htarget, displace?_eq_some_iff.1 hdisplace, hpasses⟩
  · rintro ⟨target, htarget, hsum, hpasses⟩
    -- the target is that of a line, so that it is a word
    have hword : (UInt64.ofNat target).toNat = target :=
      UInt64.toNat_ofNat_of_lt' (Nat.lt_trans htarget hlength)
    refine ⟨lines[target], ⟨.ofNat target, displace?_eq_some_iff.2 ?_, ?_⟩, hpasses⟩
    · rw [hword, hsum]
    · rw [hword, List.getElem?_eq_getElem htarget]

end Condition

/-! ## Patterns -/

namespace Pattern

variable {pattern other : Pattern}

/-- A pattern matches at a position if it has conditions and all of them hold there. -/
def MatchesWindow (pattern : Pattern) (lines : List Line) (index : Nat) : Prop :=
  pattern.conditions ≠ [] ∧ ∀ c ∈ pattern.conditions, c.HoldsInWindow lines index

theorem matchesAt_iff_window :
    pattern.matchesAt lines index ↔ pattern.MatchesWindow lines index := by
  simp only [matchesAt, isEmpty, MatchesWindow, Bool.and_eq_true, Bool.not_eq_true',
    List.isEmpty_eq_false_iff, List.all_eq_true, Condition.holdsAt_iff_window]

/-- With positions in words a pattern matches at the same positions. -/
theorem matchesAtWord_iff_window {index : UInt64} (hlength : lines.length < UInt64.size) :
    pattern.matchesAtWord lines index ↔ pattern.MatchesWindow lines index.toNat := by
  simp only [matchesAtWord, isEmpty, MatchesWindow, Bool.and_eq_true, Bool.not_eq_true',
    List.isEmpty_eq_false_iff, List.all_eq_true, Condition.holdsAtWord_iff_window hlength]

theorem mem_locateAll_iff_window : index ∈ pattern.locateAll lines ↔
    index < lines.length ∧ pattern.MatchesWindow lines index := by
  rw [locateAll, List.mem_filter, List.mem_range, matchesAt_iff_window]

/-- Patterns with the same conditions, in whatever order and however often, match alike. -/
theorem matchesWindow_of_mem_iff (h : ∀ c, c ∈ other.conditions ↔ c ∈ pattern.conditions) :
    other.MatchesWindow lines index ↔ pattern.MatchesWindow lines index := by
  have hne : other.conditions ≠ [] ↔ pattern.conditions ≠ [] := by
    simp only [ne_eq, List.eq_nil_iff_forall_not_mem, h]
  simp only [MatchesWindow, hne, h]

theorem matchesAt_of_mem_iff (h : ∀ c, c ∈ other.conditions ↔ c ∈ pattern.conditions) :
    other.matchesAt lines index = pattern.matchesAt lines index := by
  rw [Bool.eq_iff_iff, matchesAt_iff_window, matchesAt_iff_window, matchesWindow_of_mem_iff h]

theorem locateAll_of_mem_iff (h : ∀ c, c ∈ other.conditions ↔ c ∈ pattern.conditions) :
    other.locateAll lines = pattern.locateAll lines := by
  have hmatches : other.matchesAt lines = pattern.matchesAt lines :=
    funext fun index => matchesAt_of_mem_iff h
  rw [locateAll, locateAll, hmatches]

/-- A pattern matches at a position if it has conditions and each of them finds its line, at the
exact integer distance, and holds of it; the search in words says the same at every word. All such
positions are found in ascending order, and the search that stops at the first finds the first of
them. Neither the order nor the repetition of conditions makes a difference. -/
theorem search_window (pattern : Pattern) (lines : List Line)
    (hlength : (lines.length : Int) ≤ Int64.maxValue.toInt) :
    (∀ index : UInt64,
      (pattern.matchesAtWord lines index ↔ pattern.MatchesWindow lines index.toNat) ∧
        pattern.matchesAtWord lines index = pattern.matchesAt lines index.toNat) ∧
      ((pattern.locateAll lines).Pairwise (· < ·) ∧ ∀ index,
        index ∈ pattern.locateAll lines ↔
          index < lines.length ∧ pattern.MatchesWindow lines index) ∧
      (pattern.locate? lines = (pattern.locateAll lines).head? ∧ ∀ edit : Edit,
        edit.pattern = pattern → edit.anchor? lines = (pattern.locateAll lines).head?) ∧
      ∀ other : Pattern, (∀ c, c ∈ other.conditions ↔ c ∈ pattern.conditions) →
        (∀ index, other.matchesAt lines index = pattern.matchesAt lines index) ∧
          (∀ index, other.matchesAtWord lines index = pattern.matchesAtWord lines index) ∧
          other.locateAll lines = pattern.locateAll lines ∧
          other.locate? lines = pattern.locate? lines ∧
          ∀ edit : Edit, edit.pattern = pattern →
            { edit with pattern := other }.anchor? lines = edit.anchor? lines := by
  have hmax : Int64.maxValue.toInt = 9223372036854775807 := rfl
  have hwords : lines.length < UInt64.size := by
    have hsize : UInt64.size = 18446744073709551616 := rfl
    omega
  have hfirst : pattern.locate? lines = (pattern.locateAll lines).head? :=
    pattern.locate?_eq_head? lines
  refine ⟨fun index => ⟨matchesAtWord_iff_window hwords, ?_⟩,
    ⟨pairwise_locateAll pattern lines, fun index => mem_locateAll_iff_window⟩,
    ⟨hfirst, ?_⟩, fun other hother => ⟨fun index => matchesAt_of_mem_iff hother, ?_, ?_, ?_, ?_⟩⟩
  · rw [Bool.eq_iff_iff, matchesAtWord_iff_window hwords, matchesAt_iff_window]
  · rintro edit rfl
    exact hfirst
  · intro index
    rw [Bool.eq_iff_iff, matchesAtWord_iff_window hwords, matchesAtWord_iff_window hwords,
      matchesWindow_of_mem_iff hother]
  · exact locateAll_of_mem_iff hother
  · rw [locate?_eq_head?, locate?_eq_head?, locateAll_of_mem_iff hother]
  · rintro edit rfl
    rw [Edit.anchor?, Edit.anchor?, locate?_eq_head?, locate?_eq_head?,
      locateAll_of_mem_iff hother]

/-- From the middle of the words the least offset leads to the first line; from the last word no
offset leads on to it. -/
theorem search_window_at_the_ends :
    let lines : List Line := [['a', '\n']]
    let back : Pattern := ⟨[⟨Int64.minValue, .equals ['a']⟩]⟩
    let onward : Pattern := ⟨[⟨1, .equals ['a']⟩]⟩
    (lines.length : Int) ≤ Int64.maxValue.toInt ∧
      back.matchesAtWord lines 9223372036854775808 ∧
      ¬onward.matchesAtWord lines 18446744073709551615 := by
  intro lines back onward
  have hlength : (lines.length : Int) ≤ Int64.maxValue.toInt := by decide
  refine ⟨hlength, ?_, ?_⟩
  · refine ((search_window back lines hlength).1 9223372036854775808).1.2 ⟨by simp [back], ?_⟩
    intro c hc
    rw [List.mem_singleton.1 hc]
    exact ⟨0, by decide, by decide, by decide⟩
  · intro hmatches
    obtain ⟨target, htarget, hsum, -⟩ :=
      (((search_window onward lines hlength).1 18446744073709551615).1.1 hmatches).2 _
        List.mem_cons_self
    -- the sum is an integer past the last word
    have hpast : (target : Int) = 18446744073709551616 := hsum
    have hline : target < 1 := htarget
    omega

end Pattern

end Graft
