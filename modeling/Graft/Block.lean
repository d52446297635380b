import Graft.Text.Line

/-!
# Blocks

A block is a list of lines to insert. It is found again in a text by its core, which is the block
without the blank lines at its ends.

* `Block.core`: what tells a block; a block of blank lines has none.
* `Block.find?`: where the bodies of the core stand in a text, one after another.
* `insertLines`: the lines with a block put in at a position that they have.
-/

namespace Graft

/-- Lines to insert. -/
structure Block where
  /-- The lines, with their terminators. -/
  lines : List Line
  deriving DecidableEq, Repr

namespace Block

/-- The block with the given text; its last line is terminated if it was not. -/
def ofText (text : Text) : Block :=
  ⟨text.lines.map (Line.terminate .lf)⟩

/-- The block with the terminators of its lines replaced. -/
def withEnding (ending : LineEnding) (block : Block) : Block :=
  ⟨block.lines.map (Line.withEnding ending)⟩

/-- The block without the blank lines at its start and at its end. -/
def core (block : Block) : List Line :=
  ((block.lines.dropWhile Line.isBlank).reverse.dropWhile Line.isBlank).reverse

/-- Whether the first lines have the bodies of the wanted lines, in order. -/
def startWith : (lines wanted : List Line) → Bool
  | _, [] => true
  | [], _ :: _ => false
  | line :: lines, want :: wanted => line.body = want.body && startWith lines wanted

/-- Lines start with the wanted ones if a window of that length has their bodies. -/
theorem startWith_iff {lines wanted : List Line} :
    startWith lines wanted ↔ (lines.take wanted.length).map Line.body = wanted.map Line.body := by
  fun_induction startWith lines wanted <;> simp_all

/-- The first index from which on the bodies of the core stand in the lines; a block without a core
is found nowhere. -/
def find? (block : Block) (lines : List Line) : Option Nat :=
  let core := block.core
  if core.isEmpty then none
  else (List.range (lines.length + 1 - core.length)).find? fun i => startWith (lines.drop i) core

end Block

/-- There is no such position to insert at. -/
structure OutOfBounds where
  /-- The position. -/
  index : Nat
  /-- How many lines there are. -/
  count : Nat
  deriving DecidableEq, Repr

/-- What is wrong with the position, in words. -/
def OutOfBounds.message (e : OutOfBounds) : String :=
  s!"insertion index {e.index} out of bounds for {e.count} lines"

/-- The lines with others put in before the line at `index`, or after the last line. -/
def insertLines (lines : List Line) (index : Nat) (new : List Line) :
    Except OutOfBounds (List Line) :=
  if index ≤ lines.length then .ok (lines.take index ++ new ++ lines.drop index)
  else .error ⟨index, lines.length⟩

end Graft
