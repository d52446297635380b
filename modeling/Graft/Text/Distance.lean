import Graft.Text

/-!
# Edit distance and similarity

The distance of two texts is the least number of characters to insert, delete or replace that turns
one into the other. It is computed row by row: the row of a text `b` holds the distances of what has
been read of the other text to each start of `b`.

The similarity of two texts is one minus their distance over the greater length. It is kept as these
two numbers, so that similarities are compared exactly; `Similarity.toFloat` is the number that a
report shows.
-/

namespace Graft

namespace Text

/-- The rest of a row for one more character `c`, given the entry to the left and the row before. -/
def nextEntries (c : Char) (left : Nat) : Text → List Nat → List Nat
  | d :: ds, diagonal :: up :: above =>
    let entry := min (min (up + 1) (left + 1)) (if c = d then diagonal else diagonal + 1)
    entry :: nextEntries c entry ds (up :: above)
  | _, _ => []

/-- The row after one more character `c` of the other text. -/
def nextRow (b : Text) (row : List Nat) (c : Char) : List Nat :=
  let first := row.headD 0 + 1
  first :: nextEntries c first b row

/-- The least number of insertions, deletions and replacements of a character that turn `a` into
`b`. -/
def distance (a b : Text) : Nat :=
  (a.foldl (nextRow b) (List.range (b.length + 1))).getLastD 0

end Text

/-- How alike two texts are: their distance, and the length of the longer one. -/
structure Similarity where
  /-- The distance of the two texts. -/
  edits : Nat
  /-- The length of the longer text. -/
  size : Nat
  deriving DecidableEq, Repr

namespace Similarity

/-- The similarity of two texts. -/
def ofTexts (a b : Text) : Similarity :=
  ⟨Text.distance a b, max a.length b.length⟩

/-- One similarity is below another when its fraction of characters in common is the smaller one. -/
def lt (s t : Similarity) : Bool :=
  (s.size - s.edits) * t.size < (t.size - t.edits) * s.size

/-- Whether at least three fifths of the characters are in common. -/
def isClose (s : Similarity) : Bool :=
  3 * s.size ≤ 5 * (s.size - s.edits)

/-- The similarity as a number from zero to one; two empty texts are alike. -/
def toFloat (s : Similarity) : Float :=
  if s.size = 0 then 1.0 else 1.0 - s.edits.toFloat / s.size.toFloat

/-- The nearest natural number; of two equally near ones the even one. -/
def roundHalfEven (x : Float) : Nat :=
  let whole := x.toUInt64.toNat
  let part := x - whole.toFloat
  if part < 0.5 then whole
  else if part > 0.5 then whole + 1
  else if whole % 2 = 0 then whole
  else whole + 1

/-- The similarity in whole percent. -/
def percent (s : Similarity) : Nat :=
  roundHalfEven (s.toFloat * 100.0)

end Similarity

end Graft
