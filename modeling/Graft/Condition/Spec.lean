import Graft.Condition

/-!
# Written conditions

On a command line a condition is written `OFFSET:KIND` or `OFFSET:KIND:TEXT`. The text is what
follows the second colon, further colons and white space included; white space around the offset and
around the kind does not matter.

* `Condition.ofSpec`: the condition that a written form stands for, or what is wrong with it.
* `Condition.toSpec`: a written form of a condition.
-/

namespace Graft

/-- What is wrong with a written condition. -/
inductive SpecError
  /-- There is no colon. -/
  | malformed (spec : Text)
  /-- The offset is not an integer of 64 bits. -/
  | invalidOffset (offset : Text)
  /-- There is no such kind. -/
  | unknownKind (kind : Text)
  /-- The kind needs a text. -/
  | missingText (kind : Text)
  /-- A blank line has no text to look for. -/
  | unexpectedText
  deriving DecidableEq, Repr

/-- What is wrong with a written condition, in words. -/
def SpecError.message : SpecError → String
  | malformed spec => "expected OFFSET:KIND[:TEXT], got " ++ spec.quoted
  | invalidOffset offset => "invalid offset " ++ offset.quoted
  | unknownKind kind => "unknown condition kind " ++ kind.quoted
      ++ " (expected equals, trimmed, contains, starts-with or blank)"
  | missingText kind => "condition kind " ++ kind.quoted ++ " requires TEXT"
  | unexpectedText => "condition kind \"blank\" takes no TEXT"

namespace Text

/-- The number that decimal digits stand for; there is at least one digit and nothing else. -/
def readNat? (t : Text) : Option Nat :=
  if t.isEmpty || !t.all Char.isDigit then none
  else some (t.foldl (fun n c => 10 * n + (c.toNat - '0'.toNat)) 0)

/-- The integer that an optional sign and decimal digits stand for. -/
def readInt? : Text → Option Int
  | '+' :: t => (readNat? t).map Int.ofNat
  | '-' :: t => (readNat? t).map fun n => -Int.ofNat n
  | t => (readNat? t).map Int.ofNat

/-- The 64-bit integer that an optional sign and decimal digits stand for. -/
def readInt64? (t : Text) : Option Int64 :=
  match readInt? t with
  | some n =>
    if Int64.minValue.toInt ≤ n ∧ n ≤ Int64.maxValue.toInt then some (Int64.ofInt n) else none
  | none => none

end Text

namespace LineTest

/-- The test that a kind and a text stand for. An empty line is a legitimate line to look for, but
every text contains and starts with the empty one, so the other kinds refuse it. -/
def ofSpec (kind : Text) (text? : Option Text) : Except SpecError LineTest :=
  let nonempty (test : Text → LineTest) : Except SpecError LineTest :=
    match text? with
    | some (c :: t) => .ok (test (c :: t))
    | _ => .error (.missingText kind)
  let name := String.ofList kind.trim
  if name = "equals" then
    match text? with
    | some text => .ok (equals text)
    | none => .error (.missingText kind)
  else if name = "trimmed" then nonempty equalsTrimmed
  else if name = "contains" then nonempty contains
  else if name = "starts-with" then nonempty startsWith
  else if name = "blank" then
    match text? with
    | some (_ :: _) => .error .unexpectedText
    | _ => .ok blank
  else .error (.unknownKind kind.trim)

/-- The kind by which a written condition names the test. -/
def kind : LineTest → String
  | equals _ => "equals"
  | equalsTrimmed _ => "trimmed"
  | contains _ => "contains"
  | startsWith _ => "starts-with"
  | blank => "blank"

end LineTest

namespace Condition

/-- The condition that a written form stands for. -/
def ofSpec (spec : Text) : Except SpecError Condition :=
  match Text.cut? ':' spec with
  | none => .error (.malformed spec)
  | some (offset, rest) =>
    match Text.readInt64? offset.trim with
    | none => .error (.invalidOffset offset)
    | some n =>
      match Text.cut? ':' rest with
      | none => (LineTest.ofSpec rest none).map (Condition.mk n)
      | some (kind, text) => (LineTest.ofSpec kind (some text)).map (Condition.mk n)

/-- The written form of a condition. -/
def toSpec (c : Condition) : Text :=
  (toString c.offset.toInt).toList ++ ':' :: c.test.kind.toList
    ++ (match c.test.literal? with
      | some text => ':' :: text
      | none => [])

end Condition

end Graft
