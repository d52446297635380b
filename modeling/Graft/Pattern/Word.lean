import Graft.Pattern

/-!
# Positions in words

A search that runs holds a position in a word of 64 bits and an offset in a signed one. The target
of a condition is their sum as words form it, which goes round at the ends of their range.

* `displace?`: the position at a signed distance; the carry of the sum tells whether there is one.
* `Pattern.matchesAtWord`: whether a pattern matches at a position that is a word.
-/

namespace Graft

/-- The position `offset` places after `index`, unless it is before the first word or after the
last. A negative offset is added as the word with its bits, which is larger by the number of all
words; so the sum has to go round when the offset is negative, and must not otherwise. -/
def displace? (index : UInt64) (offset : Int64) : Option UInt64 :=
  if index.toBitVec.uaddOverflow offset.toBitVec = decide (offset < 0) then
    some (index + offset.toUInt64)
  else none

namespace Condition

/-- The line that a condition asks about when the candidate position is the word `index`. -/
def wordLine? (c : Condition) (lines : List Line) (index : UInt64) : Option Line :=
  (displace? index c.offset).bind fun target => lines[target.toNat]?

/-- Whether a condition holds at a candidate position that is a word. -/
def holdsAtWord (c : Condition) (lines : List Line) (index : UInt64) : Bool :=
  (c.wordLine? lines index).any c.test.passes

end Condition

/-- Whether the pattern matches at a position that is a word. -/
def Pattern.matchesAtWord (pattern : Pattern) (lines : List Line) (index : UInt64) : Bool :=
  !pattern.isEmpty && pattern.conditions.all fun c => c.holdsAtWord lines index

end Graft
