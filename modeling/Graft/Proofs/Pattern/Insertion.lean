import Graft.Pattern
import Graft.Proofs.Block.Insertion

/-!
# Windows apart from an insertion

Lines that are put in move those below them down and leave those above them where they are. So a
window that lies wholly above the insertion or wholly below it has the same lines as before, those
below at a position that is further down by as many lines as were put in. A window that reaches over
an end of the lines keeps doing so.

* `Condition.line?_splice_of_lt`, `Condition.line?_splice_add`: what conditions ask about
  afterwards.
* `Pattern.matchesAt_insertLines`: a pattern matches as before where none of its conditions looks
  over the insertion.
-/

namespace Graft

variable {lines new : List Line} {position index : Nat}

namespace Condition

variable {c : Condition}

/-- What a condition asks about above the new lines is what it asked about before. -/
theorem line?_splice_of_lt (h : position ≤ lines.length)
    (htarget : (index : Int) + c.offset.toInt < position) :
    c.line? (lines.take position ++ new ++ lines.drop position) index = c.line? lines index := by
  rw [line?, line?]
  split
  · rfl
  · exact getElem?_splice_of_lt h (by omega)

/-- What a condition asks about from the position on is below the new lines afterwards. -/
theorem line?_splice_add (h : position ≤ lines.length)
    (htarget : (position : Int) ≤ index + c.offset.toInt) :
    c.line? (lines.take position ++ new ++ lines.drop position) (index + new.length) =
      c.line? lines index := by
  -- the target moves down with the position that it is seen from
  have hmoved : ((index + new.length : Nat) : Int) + c.offset.toInt =
      ((index + c.offset.toInt).toNat + new.length : Nat) := by omega
  have hnonneg : ¬(((index + c.offset.toInt).toNat + new.length : Nat) : Int) < 0 := by omega
  have hnonneg' : ¬(index : Int) + c.offset.toInt < 0 := by omega
  rw [line?, line?, hmoved, if_neg hnonneg, if_neg hnonneg', Int.toNat_natCast]
  exact getElem?_splice_add h (by omega)

end Condition

namespace Pattern

/-- Where all conditions look above the new lines a pattern matches as before, and where all of them
look at the lines from the position on it matches as before further down. -/
theorem matchesAt_insertLines (lines new : List Line) (hposition : position ≤ lines.length) :
    ∃ lines', insertLines lines position new = .ok lines' ∧
      ∀ (pattern : Pattern) (index : Nat),
        ((∀ c ∈ pattern.conditions, (index : Int) + c.offset.toInt < position) →
          pattern.matchesAt lines' index = pattern.matchesAt lines index) ∧
        ((∀ c ∈ pattern.conditions, (position : Int) ≤ index + c.offset.toInt) →
          pattern.matchesAt lines' (index + new.length) = pattern.matchesAt lines index) := by
  refine ⟨_, insertLines_of_le hposition, fun pattern index => ⟨fun habove => ?_, fun hbelow => ?_⟩⟩
  · refine matchesAt_of_holdsAt fun c hc => ?_
    rw [Condition.holdsAt, Condition.holdsAt, c.line?_splice_of_lt hposition (habove c hc)]
  · refine matchesAt_of_holdsAt fun c hc => ?_
    rw [Condition.holdsAt, Condition.holdsAt, c.line?_splice_add hposition (hbelow c hc)]

/-- The lines right above and right below a new one, the latter seen from past the last line. -/
theorem matchesAt_insertLines_between :
    let lines : List Line := [['a', '\n'], ['b', '\n']]
    let above : Pattern := ⟨[⟨0, .equals ['a']⟩]⟩
    let below : Pattern := ⟨[⟨-2, .equals ['b']⟩]⟩
    1 ≤ lines.length ∧ ∃ lines', insertLines lines 1 [['x', '\n']] = .ok lines' ∧
      above.matchesAt lines' 0 ∧ below.matchesAt lines' 4 := by
  intro lines above below
  have hposition : 1 ≤ lines.length := by decide
  obtain ⟨lines', hinsert, hmatches⟩ := matchesAt_insertLines lines [['x', '\n']] hposition
  refine ⟨hposition, lines', hinsert, ?_, ?_⟩
  · rw [(hmatches above 0).1 (by decide)]
    decide
  · have hbelow := (hmatches below 3).2 (by decide)
    rw [show 4 = 3 + [['x', '\n']].length from rfl, hbelow]
    decide

/-- A window that looks over the insertion may lose its match. -/
example :
    let pattern : Pattern := ⟨[⟨0, .equals ['a']⟩, ⟨1, .equals ['b']⟩]⟩
    pattern.matchesAt [['a', '\n'], ['b', '\n']] 0 = true ∧
      pattern.matchesAt [['a', '\n'], ['x', '\n'], ['b', '\n']] 0 = false := by
  decide

end Pattern

end Graft
