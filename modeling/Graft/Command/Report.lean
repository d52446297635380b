import Graft.Command.Output
import Graft.Diff
import Graft.PatchFile.Apply
import Graft.PatchFile.Load

/-!
# Reports

What a command says about outcomes, failures and changes.
-/

namespace Graft.Report

/-- A token of a hunk with its sign; a token without an end is put on a line of its own. -/
def token (colored : Bool) (sign : String) (style? : Option Style) (text : Text) : String :=
  let isOpen := text.getLast? ≠ some '\n' && text.getLast? ≠ some '\r'
  let shown := sign ++ String.ofList text ++ if isOpen then "\n" else ""
  (match style? with
    | some style => style.paint colored shown
    | none => shown)
    ++ if isOpen then "\n" else ""

/-- One change of a hunk. -/
def tokenChange (colored : Bool) : Change Text → String
  | .keep text => token colored " " none text
  | .remove text => token colored "-" (some .red) text
  | .add text => token colored "+" (some .green) text

/-- The hunk of a change. -/
def hunk (colored : Bool) (hunk : Hunk) : Output :=
  Output.line (Style.cyan.paint colored hunk.header)
    ++ { out := String.join (hunk.changes.map (tokenChange colored)) }

/-- The change of a file. -/
def change (colored : Bool) (file : Path) (before after : Text) : Output :=
  Output.line ("\n" ++ Style.dimmed.paint colored ("--- " ++ file ++ " (original)"))
    ++ Output.line (Style.dimmed.paint colored ("+++ " ++ file ++ " (patched)"))
    ++ Output.concat ((Diff.hunks before after).map (hunk colored))

/-- An outcome, with the change if that is asked for. -/
def outcome (colored diff : Bool) (label : String) : Outcome → Output
  | .inserted file line inserted matchCount written before after =>
    let verb := if written then "Inserted" else "Would insert"
    let note := s!"Note: anchor matched {matchCount} positions; the first was used"
    Output.line (Style.green.paint colored "✓" ++ " " ++ label ++ verb
        ++ s!" {inserted} lines at line {line} of " ++ file)
      ++ (if 1 < matchCount then Output.line ("  " ++ Style.yellow.paint colored note) else {})
      ++ (if diff then change colored file before after else {})
  | .alreadyApplied file line =>
    Output.line (Style.yellow.paint colored "⊙" ++ " " ++ label ++ "Already applied to " ++ file
      ++ s!" (block found at line {line})")

/-- What is said about a failed edit besides the failure itself. -/
def advice (colored : Bool) : Failure → List String
  | .anchorNotFound _ diagnosis =>
    ["  " ++ Style.dimmed.paint colored "The file was not modified."]
      ++ diagnosis.report.map ("  " ++ ·)
      ++ ["  Possible causes:",
        "    - The surrounding code was renamed, moved or reformatted",
        "    - The offset between anchor conditions changed"]
  | .unwritable _ _ =>
    ["  " ++ Style.red.paint colored
      "The write may be incomplete; check the file against version control."]
  | .changedMeanwhile _ => ["  Re-run once the other writer has finished."]
  | .emptyBlock _ => ["  " ++ Style.dimmed.paint colored "The file was not modified."]
  | .unreadable _ _ => []

/-- The line of a failure. -/
def failureLine (colored : Bool) (label message : String) : Output :=
  Output.errorLine (Style.red.paint colored "✗" ++ " " ++ label ++ message)

/-- A failed edit. -/
def failure (colored : Bool) (label : String) (failure : Failure) : Output :=
  failureLine colored label failure.message
    ++ Output.concat ((advice colored failure).map Output.errorLine)

/-- A failed patch. -/
def patchFailure (colored : Bool) (label : String) : PatchFailure → Output
  | .edit e => failure colored label e
  | e => failureLine colored label e.message

/-- An error that ends a command, with its cause indented below it. -/
def error (message : String) (cause : Option String) : Output :=
  Output.errorLine <| "Error: " ++ message ++
    match cause with
    | some cause =>
      let lines := (Text.split '\n' cause.toList).map fun line => "    " ++ String.ofList line
      "\n\nCaused by:\n" ++ "\n".intercalate lines
    | none => ""

/-- The log lines of a run. -/
def events (events : List Event) : Output :=
  Output.concat (events.map fun event => Output.errorLine event.message)

/-- A line of a summary. -/
def count (colored : Bool) (style : Style) (n : Nat) (label : String) : Output :=
  Output.line ("  " ++ style.paint colored (toString n) ++ " " ++ label)

end Graft.Report
