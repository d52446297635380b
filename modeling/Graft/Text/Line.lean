import Graft.Text

/-!
# Lines

A text is cut into lines after every newline, and a line keeps its terminator, so that the lines of
a text put together again are the text.

* `Text.flatten_lines`: nothing is lost or added by cutting a text into lines.
* `Line.body`: what a line says, without a final newline and a carriage return before it.
* `LineEnding.detect`: the ending of the first terminated line decides for the whole text.
-/

namespace Graft

/-- A line is a text with at most one newline, at its end. -/
abbrev Line := Text

/-- How terminated lines of a text end. -/
inductive LineEnding
  /-- A newline alone. -/
  | lf
  /-- A carriage return and a newline. -/
  | crlf
  deriving DecidableEq, Repr

namespace LineEnding

/-- The characters of a line ending. -/
def chars : LineEnding → Text
  | lf => ['\n']
  | crlf => ['\r', '\n']

/-- The ending of a text is told by what stands before its first newline; a text without a newline
counts as ending its lines with a newline alone. -/
def detect (t : Text) : LineEnding :=
  match Text.cut? '\n' t with
  | some (before, _) => if before.getLast? = some '\r' then crlf else lf
  | none => lf

end LineEnding

/-- The lines of a text: it is cut after every newline, and a last piece without one is a line
too. -/
def Text.lines : Text → List Line
  | [] => []
  | c :: t =>
    if c = '\n' then [c] :: Text.lines t
    else
      match Text.lines t with
      | [] => [[c]]
      | line :: rest => (c :: line) :: rest

namespace Line

/-- Whether a line ends in a newline. -/
def isTerminated (line : Line) : Bool :=
  line.getLast? = some '\n'

/-- A line without its terminator: a final newline and one carriage return before it. -/
def body (line : Line) : Text :=
  if isTerminated line then
    if line.dropLast.getLast? = some '\r' then line.dropLast.dropLast else line.dropLast
  else line

/-- A terminated line with its terminator replaced; a line without one is left alone. -/
def withEnding (ending : LineEnding) (line : Line) : Line :=
  if isTerminated line then body line ++ ending.chars else line

/-- A line with its terminator, if it has one, or else with the given one added. -/
def terminate (ending : LineEnding) (line : Line) : Line :=
  if isTerminated line then line else line ++ ending.chars

/-- A line is blank when its body is. -/
def isBlank (line : Line) : Bool :=
  Text.isBlank (body line)

end Line

/-- Cutting a text into lines loses and adds nothing. -/
theorem Text.flatten_lines (t : Text) : (Text.lines t).flatten = t := by
  induction t with
  | nil => rfl
  | cons c t ih =>
    rw [Text.lines]
    split
    · simp [ih]
    · split <;> simp_all

/-- No line of a text is empty. -/
theorem Text.ne_nil_of_mem_lines {t : Text} {line : Line} (h : line ∈ Text.lines t) :
    line ≠ [] := by
  induction t generalizing line with
  | nil => simp [Text.lines] at h
  | cons c t ih =>
    rw [Text.lines] at h
    split at h
    · rcases List.mem_cons.1 h with rfl | h
      · simp
      · exact ih h
    · split at h
      · simp_all
      · rename_i first rest hl
        rcases List.mem_cons.1 h with rfl | h
        · simp
        · exact ih (by simp [hl, h])

end Graft
