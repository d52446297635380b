import Graft.Pattern
import Graft.Text.Distance

/-!
# Diagnosis of a failed search

When a pattern matches nowhere, its diagnosis says at how many positions each condition holds by
itself, and which line comes closest to the first condition that never holds and looks for a text.

* `Diagnosis.report`: the diagnosis as lines of a message.
* `Pattern.map_fst_hits_diagnose`: a diagnosis lists every condition once, in order.
-/

namespace Graft

/-- A line that is nearly what a condition looks for. -/
structure NearMiss where
  /-- The condition that never holds. -/
  condition : Condition
  /-- The number of the line, from one on. -/
  line : Nat
  /-- The body of the line without white space at its ends. -/
  text : Text
  /-- How alike the line and the text of the condition are. -/
  similarity : Similarity
  deriving DecidableEq, Repr

/-- Why a pattern matches nowhere. -/
structure Diagnosis where
  /-- The conditions, each with the number of positions where it holds. -/
  hits : List (Condition × Nat)
  /-- The nearest line to the first condition that never holds. -/
  closest : Option NearMiss
  deriving DecidableEq, Repr

namespace Condition

/-- At how many positions the condition holds. -/
def hits (c : Condition) (lines : List Line) : Nat :=
  (List.range lines.length).countP (c.holdsAt lines)

/-- The better of two near misses, the earlier one when they are equally good. -/
def nearer (best : Option NearMiss) (next : NearMiss) : Option NearMiss :=
  match best with
  | some miss => if miss.similarity.lt next.similarity then some next else some miss
  | none => some next

/-- The line that comes nearest to the text that the condition looks for, of those that are close.
Blank lines are not close to anything. -/
def nearest? (c : Condition) (lines : List Line) : Option NearMiss :=
  match c.test.literal? with
  | none => none
  | some literal =>
    lines.zipIdx.foldl
      (fun best (line, index) =>
        let text := (Line.body line).trim
        let similarity := Similarity.ofTexts literal.trim text
        if !text.isEmpty && similarity.isClose then
          nearer best ⟨c, index + 1, text, similarity⟩
        else best)
      none

end Condition

/-- The diagnosis of a search for the pattern. -/
def Pattern.diagnose (pattern : Pattern) (lines : List Line) : Diagnosis :=
  let hits := pattern.conditions.map fun c => (c, c.hits lines)
  let failing? := hits.find? fun (c, n) => n = 0 && c.test.literal?.isSome
  { hits := hits
    closest := failing?.bind fun (c, _) => c.nearest? lines }

namespace Diagnosis

/-- How often a condition holds, in words. -/
def describeHits : Nat → String
  | 0 => "never holds"
  | 1 => "holds at 1 position"
  | n => s!"holds at {n} positions"

/-- A near miss in words. -/
def describeMiss (miss : NearMiss) : String :=
  "closest line to " ++ miss.condition.test.describe ++ s!": line {miss.line} "
    ++ miss.text.quoted ++ s!" ({miss.similarity.percent}% similar)"

/-- The lines of the message: one for each condition, and one for the nearest line. -/
def report (d : Diagnosis) : List String :=
  if d.hits.isEmpty then ["anchor pattern has no conditions"]
  else
    d.hits.map (fun (c, n) => c.describe ++ ": " ++ describeHits n)
      ++ d.closest.toList.map describeMiss

/-- The diagnosis in words. -/
def message (d : Diagnosis) : String :=
  "\n".intercalate d.report

end Diagnosis

/-- A diagnosis lists every condition of the pattern once, in order. -/
theorem Pattern.map_fst_hits_diagnose (pattern : Pattern) (lines : List Line) :
    (pattern.diagnose lines).hits.map Prod.fst = pattern.conditions := by
  simp [Pattern.diagnose, Function.comp_def]

end Graft
