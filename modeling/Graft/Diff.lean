import Graft.Diff.Script
import Graft.Text

/-!
# Differences of texts

The difference of two texts. Both are cut into tokens, which end after a newline, a carriage return,
or a carriage return with a newline. The script between the tokens is shown in hunks: changes that
are close to one another, with a few kept tokens around them.

* `Diff.flatten_tokens`: nothing is lost or added by cutting a text into tokens.
* `Diff.hunks`: the hunks of two texts; equal texts have none.
-/

namespace Graft

/-- The tokens of a text. -/
def Diff.tokens : Text → List Text
  | [] => []
  | '\r' :: '\n' :: t => ['\r', '\n'] :: Diff.tokens t
  | c :: t =>
    if c = '\n' ∨ c = '\r' then [c] :: Diff.tokens t
    else
      match Diff.tokens t with
      | [] => [[c]]
      | token :: rest => (c :: token) :: rest

/-- What differs between two texts in one place, with the tokens around it. -/
structure Hunk where
  /-- How many tokens of both texts come before the hunk. -/
  start : Position
  /-- What happens to the tokens that the hunk covers. -/
  changes : Script Text
  deriving DecidableEq, Repr

namespace Diff

/-- How many tokens of context stand on either side. -/
def context : Nat := 3

/-- The hunks of a script that starts at a position in both texts. A long row of kept tokens ends a
hunk, and only the tokens next to a change are shown of it. -/
def hunksFrom (position : Position) (script : Script Text) : List Hunk :=
  let kept := script.takeWhile Change.isKeep
  match h : script.dropWhile Change.isKeep with
  | [] => []
  | change :: more =>
    have hshorter : more.length < script.length := by
      have hlength := (List.dropWhile_sublist Change.isKeep (l := script)).length_le
      rwa [h] at hlength
    let changed := change :: more.take (Script.reach context more)
    let rest := more.drop (Script.reach context more)
    let hidden := kept.length - context
    ⟨position.advance (kept.take hidden), kept.drop hidden ++ changed ++ rest.take context⟩
      :: hunksFrom (position.advance (kept ++ changed)) rest
  termination_by script.length
  decreasing_by
    rw [List.length_drop]
    omega

/-- The hunks of two texts; equal texts have none. -/
def hunks (before after : Text) : List Hunk :=
  hunksFrom ⟨0, 0⟩ (Script.between (tokens before) (tokens after))

/-- A script that keeps everything has no hunk. -/
theorem hunksFrom_of_forall_isKeep {position : Position} {script : Script Text}
    (h : ∀ change ∈ script, change.isKeep) : hunksFrom position script = [] := by
  have hnil : script.dropWhile Change.isKeep = [] := by
    rw [← List.append_nil script, List.dropWhile_append_of_pos h, List.dropWhile_nil]
  rw [hunksFrom]
  split
  next => rfl
  next hchanged =>
    rw [hnil] at hchanged
    cases hchanged

/-- The first change and what is close to it make the first hunk. -/
theorem hunksFrom_append {position : Position} {kept more : Script Text} {change : Change Text}
    (hkept : ∀ change ∈ kept, change.isKeep) (hchange : ¬change.isKeep) :
    hunksFrom position (kept ++ change :: more) =
      let changed := change :: more.take (Script.reach context more)
      let rest := more.drop (Script.reach context more)
      let hidden := kept.length - context
      ⟨position.advance (kept.take hidden), kept.drop hidden ++ changed ++ rest.take context⟩
        :: hunksFrom (position.advance (kept ++ changed)) rest := by
  have htake : (kept ++ change :: more).takeWhile Change.isKeep = kept := by
    rw [List.takeWhile_append_of_pos hkept, List.takeWhile_cons_of_neg hchange, List.append_nil]
  have hdrop : (kept ++ change :: more).dropWhile Change.isKeep = change :: more := by
    rw [List.dropWhile_append_of_pos hkept, List.dropWhile_cons_of_neg hchange]
  rw [hunksFrom, htake]
  split
  next hnil =>
    rw [hdrop] at hnil
    cases hnil
  next hchanged =>
    rw [hdrop] at hchanged
    obtain ⟨rfl, rfl⟩ := List.cons.inj hchanged
    rfl

/-- Cutting a text into tokens loses and adds nothing. -/
theorem flatten_tokens (t : Text) : (tokens t).flatten = t := by
  fun_induction tokens t <;> simp_all

end Diff

namespace Hunk

/-- The tokens of the first text that the hunk covers. -/
def oldTokens (hunk : Hunk) : List Text :=
  hunk.changes.before

/-- The tokens of the second text that the hunk covers. -/
def newTokens (hunk : Hunk) : List Text :=
  hunk.changes.after

/-- A range of tokens, counted from one. Its length is left out when it is one, and an empty range
is given by the token before it. -/
def range (start length : Nat) : String :=
  if length = 1 then s!"{start + 1}"
  else if length = 0 then s!"{start},0"
  else s!"{start + 1},{length}"

/-- The first line of the hunk: the ranges that it covers in both texts. -/
def header (hunk : Hunk) : String :=
  "@@ -" ++ range hunk.start.old hunk.oldTokens.length ++ " +"
    ++ range hunk.start.new hunk.newTokens.length ++ " @@"

end Hunk

end Graft
