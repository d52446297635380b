/-!
# Output of a command

What a command prints, apart for results and for messages, and how words of it are painted on a
terminal with colours.
-/

namespace Graft

/-- What a command prints. -/
structure Output where
  /-- What is printed as a result. -/
  out : String := ""
  /-- What is printed as a message. -/
  err : String := ""
  deriving DecidableEq, Repr

namespace Output

/-- One output after another. -/
def append (first second : Output) : Output :=
  ⟨first.out ++ second.out, first.err ++ second.err⟩

instance : Append Output := ⟨append⟩

/-- Several outputs, one after another. -/
def concat (outputs : List Output) : Output :=
  outputs.foldl append {}

/-- A line of a result. -/
def line (text : String) : Output :=
  { out := text ++ "\n" }

/-- A line of a message. -/
def errorLine (text : String) : Output :=
  { err := text ++ "\n" }

end Output

/-- How a text is painted. -/
inductive Style
  /-- Red. -/
  | red
  /-- Green. -/
  | green
  /-- Yellow. -/
  | yellow
  /-- Cyan. -/
  | cyan
  /-- Bold. -/
  | bold
  /-- Dimmed. -/
  | dimmed
  deriving DecidableEq, Repr

namespace Style

/-- What a terminal is told to start a style. -/
def start : Style → String
  | red => "\x1b[31m"
  | green => "\x1b[32m"
  | yellow => "\x1b[33m"
  | cyan => "\x1b[36m"
  | bold => "\x1b[1m"
  | dimmed => "\x1b[2m"

/-- What a terminal is told to end all styles. -/
def reset : String := "\x1b[0m"

/-- A text in a style, on a terminal with colours. Where the text ends all styles itself, the style
starts again. -/
def paint (style : Style) (colored : Bool) (text : String) : String :=
  if colored then style.start ++ text.replace reset (reset ++ style.start) ++ reset else text

end Style

end Graft
