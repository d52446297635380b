import Graft.Text.Line
import Graft.Text.Quoted

/-!
# Conditions on lines

A condition asks something of the line at a signed distance from a candidate position. It sees the
body of that line only, so that terminators never matter.

* `Condition.holdsAt_iff`: a condition holds where the line that it asks about exists and passes its
  test.
-/

namespace Graft

/-- What a condition asks of the body of a line. -/
inductive LineTest
  /-- The body is this text. -/
  | equals (text : Text)
  /-- The body is this text, white space at the ends of both apart. -/
  | equalsTrimmed (text : Text)
  /-- This text stands somewhere in the body. -/
  | contains (text : Text)
  /-- The body starts with this text. -/
  | startsWith (text : Text)
  /-- The body is blank. -/
  | blank
  deriving DecidableEq, Repr

namespace LineTest

/-- Whether a line passes the test. -/
def passes (test : LineTest) (line : Line) : Bool :=
  let body := Line.body line
  match test with
  | equals text => body = text
  | equalsTrimmed text => body.trim = text.trim
  | contains text => text.occursIn body
  | startsWith text => text.isPrefixOf body
  | blank => body.isBlank

/-- The text that the test looks for. -/
def literal? : LineTest → Option Text
  | equals text | equalsTrimmed text | contains text | startsWith text => some text
  | blank => none

/-- The test in words. -/
def describe : LineTest → String
  | equals text => "equals " ++ text.quoted
  | equalsTrimmed text => "equals (trimmed) " ++ text.quoted
  | contains text => "contains " ++ text.quoted
  | startsWith text => "starts with " ++ text.quoted
  | blank => "is blank"

end LineTest

/-- A test of the line at a signed distance from a candidate position. -/
structure Condition where
  /-- How many lines below the candidate position the tested line is. -/
  offset : Int64
  /-- What is asked of that line. -/
  test : LineTest
  deriving DecidableEq, Repr

namespace Condition

/-- The line that a condition asks about when the candidate position is `index`. -/
def line? (c : Condition) (lines : List Line) (index : Nat) : Option Line :=
  let target : Int := index + c.offset.toInt
  if target < 0 then none else lines[target.toNat]?

/-- Whether a condition holds at a candidate position. -/
def holdsAt (c : Condition) (lines : List Line) (index : Nat) : Bool :=
  (c.line? lines index).any c.test.passes

/-- The offset with its sign, which zero has too. -/
def signedOffset (c : Condition) : String :=
  if c.offset.toInt < 0 then toString c.offset.toInt else "+" ++ toString c.offset.toInt

/-- The condition in words. -/
def describe (c : Condition) : String :=
  "line " ++ c.signedOffset ++ " " ++ c.test.describe

/-- A condition holds where the line that it asks about exists and passes its test. -/
theorem holdsAt_iff (c : Condition) (lines : List Line) (index : Nat) :
    c.holdsAt lines index ↔ ∃ line, c.line? lines index = some line ∧ c.test.passes line := by
  cases h : c.line? lines index <;> simp [holdsAt, h]

end Condition

end Graft
