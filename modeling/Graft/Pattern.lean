import Graft.Condition

/-!
# Patterns

A pattern is a list of conditions. It matches at a position where all of them hold; the pattern
without conditions matches nowhere.

* `Pattern.locate?_eq_head?`: the position found first is the first of all positions.
-/

namespace Graft

/-- The conditions that tell a position in a text. -/
structure Pattern where
  /-- The conditions, all of which have to hold. -/
  conditions : List Condition
  deriving DecidableEq, Repr

namespace Pattern

/-- A line equal to `marker` with `needle` on the line `lookahead` below it. -/
def ofMarker (marker : Text) (lookahead : Int64) (needle : Text) : Pattern :=
  ⟨[⟨0, .equals marker⟩, ⟨lookahead, .contains needle⟩]⟩

/-- The pattern with one more condition. -/
def push (pattern : Pattern) (c : Condition) : Pattern :=
  ⟨pattern.conditions ++ [c]⟩

/-- Whether there is nothing to look for. -/
def isEmpty (pattern : Pattern) : Bool :=
  pattern.conditions.isEmpty

/-- Whether the pattern matches at a position. -/
def matchesAt (pattern : Pattern) (lines : List Line) (index : Nat) : Bool :=
  !pattern.isEmpty && pattern.conditions.all fun c => c.holdsAt lines index

/-- The first position where the pattern matches. -/
def locate? (pattern : Pattern) (lines : List Line) : Option Nat :=
  (List.range lines.length).find? (pattern.matchesAt lines)

/-- All positions where the pattern matches, from the top. -/
def locateAll (pattern : Pattern) (lines : List Line) : List Nat :=
  (List.range lines.length).filter (pattern.matchesAt lines)

/-- A pattern matches alike where its conditions hold alike. -/
theorem matchesAt_of_holdsAt {pattern : Pattern} {lines lines' : List Line} {index index' : Nat}
    (h : ∀ c ∈ pattern.conditions, c.holdsAt lines index = c.holdsAt lines' index') :
    pattern.matchesAt lines index = pattern.matchesAt lines' index' := by
  rw [matchesAt, matchesAt, Bool.eq_iff_iff]
  simp only [Bool.and_eq_true, List.all_eq_true]
  exact and_congr_right fun _ => forall₂_congr fun c hc => by rw [h c hc]

/-- The position found first is the first of all positions. -/
theorem locate?_eq_head? (pattern : Pattern) (lines : List Line) :
    pattern.locate? lines = (pattern.locateAll lines).head? := by
  simp [locate?, locateAll, List.head?_filter]

/-- Every position where the pattern matches is that of a line. -/
theorem lt_length_of_mem_locateAll {pattern : Pattern} {lines : List Line} {index : Nat}
    (h : index ∈ pattern.locateAll lines) : index < lines.length := by
  simp only [locateAll, List.mem_filter, List.mem_range] at h
  exact h.1

end Pattern

end Graft
