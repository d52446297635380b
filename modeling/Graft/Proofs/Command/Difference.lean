import Graft.Proofs.Command.Visits
import Graft.Proofs.Diff.Hunk
import Graft.Proofs.Diff.Tokens
import Graft.Proofs.Edit.Keeping

/-!
# The change that is shown

* `Edit.exists_plan_of_run`: what a run inserts was planned on what the file had.
* `Edit.exists_hunks_of_plan`: a planned insertion changes the text in one place, with no more than
  one token in it.
* `Report.IsPrinted`, `Report.HasHunk`: how the signed tokens of a hunk are printed, and below what.
* `Report.isPrinted_map_signed`, `Report.hasHunk_change`: the changes of a hunk are printed so.
* `Report.exists_hunk_of_run`: the change that is printed for an insertion has one hunk, which shows
  how the text afterwards comes about from the text before.
-/

namespace Graft

namespace Edit

variable {edit : Edit} {fs : FileSystem} {path file : Path} {mode : Mode} {text before after : Text}
  {insertion : Insertion} {line inserted matchCount : Nat} {written : Bool}

/-- What a run inserts was planned on what the file had. -/
theorem exists_plan_of_run (h : (edit.run fs path mode).1 =
      .ok (.inserted file line inserted matchCount written before after)) :
    ∃ insertion, edit.plan (.ofText path before) = .ok (.insert insertion) ∧
      insertion.text = after := by
  rcases run_cases edit fs path with
    ⟨e, -, hrun⟩ | ⟨line, hrun⟩ | ⟨text, insertion, -, hread, hplan⟩
  · rw [hrun] at h
    cases h
  · rw [hrun] at h
    cases h
  · have hsame : (Snapshot.ofText path text).text = before ∧ insertion.text = after := by
      cases mode with
      | preview =>
        rw [run_preview_of_insert hread hplan] at h
        obtain ⟨-, -, -, -, -, hbefore, hafter⟩ := Outcome.inserted.inj (Except.ok.inj h)
        exact ⟨hbefore, hafter⟩
      | apply =>
        rw [run_apply_of_insert hread hplan] at h
        cases hopen : fs.reopen path with
        | error e => simp [hopen] at h
        | ok location =>
          rw [hopen] at h
          obtain ⟨-, -, -, -, -, hbefore, hafter⟩ := Outcome.inserted.inj (Except.ok.inj h)
          exact ⟨hbefore, hafter⟩
    rw [Snapshot.text_ofText] at hsame
    obtain ⟨rfl, rfl⟩ := hsame
    exact ⟨insertion, hplan, rfl⟩

/-- A planned insertion makes one hunk. -/
theorem exists_hunks_of_plan (h : edit.plan (.ofText path text) = .ok (.insert insertion)) :
    ∃ hunk, Diff.hunks text insertion.text = [hunk] := by
  obtain ⟨front, added, back, rfl, hafter, hne, hplace⟩ := exists_split_of_plan h
  obtain ⟨above, old, new, below, hbefore, hnew, hfew⟩ := Diff.exists_tokens_insert hplace added
  rw [← hafter] at hnew
  refine Diff.exists_hunks_eq_singleton hbefore hnew (Nat.le_trans hfew (by decide)) fun heq => ?_
  -- what is put in is not empty, so that the text gets longer
  have hlength := congrArg List.length (heq.trans hafter)
  simp only [List.length_append] at hlength
  exact hne (List.length_eq_zero_iff.1 (by omega))

end Edit

/-! ## What is printed of a hunk -/

namespace Report

/-- A token with the sign of what happens to it. -/
def signed : Change Text → String × Text
  | .keep token => (" ", token)
  | .remove token => ("-", token)
  | .add token => ("+", token)

/-- What is removed is red, and what is added is green. -/
def paintSigned (paint : Style → String → String) (sign shown : String) : String :=
  if sign = "-" then paint .red shown
  else if sign = "+" then paint .green shown
  else shown

/-- How signed tokens are printed: the sign, then the token. A token that ends no line is put on a
line of its own, with an empty line below. -/
inductive IsPrinted (paint : Style → String → String) : List (String × Text) → String → Prop
  /-- Nothing is printed for no tokens. -/
  | nil : IsPrinted paint [] ""
  /-- The token ends a line. -/
  | ended {sign : String} {token : Text} {rest : List (String × Text)} {more : String}
    (hend : token.getLast? = some '\n' ∨ token.getLast? = some '\r')
    (hrest : IsPrinted paint rest more) :
    IsPrinted paint ((sign, token) :: rest)
      (paintSigned paint sign (sign ++ String.ofList token) ++ more)
  /-- The token ends no line. -/
  | unended {sign : String} {token : Text} {rest : List (String × Text)} {more : String}
    (hend : token.getLast? ≠ some '\n' ∧ token.getLast? ≠ some '\r')
    (hrest : IsPrinted paint rest more) :
    IsPrinted paint ((sign, token) :: rest)
      (paintSigned paint sign (sign ++ String.ofList token ++ "\n") ++ "\n" ++ more)

/-- The output has the name of the file for both texts and one hunk: the header, and the signed
tokens below it. -/
def HasHunk (paint : Style → String → String) (file : Path) (header : String)
    (tokens : List (String × Text)) (output : Output) : Prop :=
  ∃ body, IsPrinted paint tokens body ∧
    output.out = "\n" ++ paint .dimmed ("--- " ++ file ++ " (original)") ++ "\n" ++
      paint .dimmed ("+++ " ++ file ++ " (patched)") ++ "\n" ++
      paint .cyan header ++ "\n" ++ body ∧
    output.err = ""

/-- The tokens are those of a hunk, each with its sign. -/
structure IsSigned (tokens : List (String × Text)) (hunk : Hunk) : Prop where
  /-- A token is kept, removed or added. -/
  sign : ∀ token ∈ tokens, token.1 = " " ∨ token.1 = "-" ∨ token.1 = "+"
  /-- What is kept and removed stands in the range of the first text. -/
  oldTokens_eq : (tokens.filter (·.1 ≠ "+")).map Prod.snd = hunk.oldTokens
  /-- What is kept and added stands in the range of the second text. -/
  newTokens_eq : (tokens.filter (·.1 ≠ "-")).map Prod.snd = hunk.newTokens
  /-- No more than three tokens are kept above what changes. -/
  length_above : (tokens.takeWhile (·.1 = " ")).length ≤ 3
  /-- No more than three tokens are kept below what changes. -/
  length_below : (tokens.reverse.takeWhile (·.1 = " ")).length ≤ 3

/-- The sign of what is kept is a blank. -/
theorem length_takeWhile_signed (script : Script Text) :
    ((script.map signed).takeWhile (·.1 = " ")).length =
      (script.takeWhile Change.isKeep).length := by
  have hkeep : (fun token : String × Text => decide (token.1 = " ")) ∘ signed = Change.isKeep := by
    funext change
    cases change <;> rfl
  rw [List.takeWhile_map, hkeep, List.length_map]

/-- The changes of a hunk are its tokens, each with its sign. -/
theorem isSigned_map_signed {hunk : Hunk} (h : hunk.changes.IsFramed Diff.context) :
    IsSigned (hunk.changes.map signed) hunk := by
  have hold : ∀ script : Script Text,
      ((script.map signed).filter (·.1 ≠ "+")).map Prod.snd = script.before := by
    intro script
    induction script with
    | nil => rfl
    | cons change rest ih => cases change <;> simp_all [signed, Change.before?]
  have hnew : ∀ script : Script Text,
      ((script.map signed).filter (·.1 ≠ "-")).map Prod.snd = script.after := by
    intro script
    induction script with
    | nil => rfl
    | cons change rest ih => cases change <;> simp_all [signed, Change.after?]
  obtain ⟨habove, hbelow⟩ := h.length_takeWhile_le
  refine ⟨?_, hold hunk.changes, hnew hunk.changes, ?_, ?_⟩
  · intro token htoken
    obtain ⟨change, -, rfl⟩ := List.mem_map.1 htoken
    cases change <;> simp [signed]
  · rw [length_takeWhile_signed]
    exact habove
  · rw [← List.map_reverse, length_takeWhile_signed]
    exact hbelow

/-- A change is printed as its token behind its sign. -/
theorem isPrinted_cons {colored : Bool} (change : Change Text) {rest : List (String × Text)}
    {more : String} (hrest : IsPrinted (fun style => style.paint colored) rest more) :
    IsPrinted (fun style => style.paint colored) (signed change :: rest)
      (tokenChange colored change ++ more) := by
  cases change with
  | keep text | remove text | add text =>
    -- whether a newline is put behind the token is asked twice: what is painted gets one as well
    by_cases hend : text.getLast? = some '\n' ∨ text.getLast? = some '\r'
    · have hclosed : (text.getLast? ≠ some '\n' && text.getLast? ≠ some '\r') = false := by
        simpa [or_iff_not_imp_left] using hend
      simp only [tokenChange, token, hclosed, Bool.false_eq_true, if_false, String.append_empty]
      exact .ended hend hrest
    · have hopen : (text.getLast? ≠ some '\n' && text.getLast? ≠ some '\r') = true := by
        simpa using hend
      simp only [tokenChange, token, hopen, if_true]
      exact .unended (not_or.1 hend) hrest

/-- The changes of a hunk are printed one after another. -/
theorem isPrinted_map_signed (colored : Bool) (script : Script Text) :
    IsPrinted (fun style => style.paint colored) (script.map signed)
      (String.join (script.map (tokenChange colored))) := by
  induction script with
  | nil => exact .nil
  | cons change rest ih =>
    rw [List.map_cons, List.map_cons, String.join_cons]
    exact isPrinted_cons change ih

/-- The change of texts with one hunk is printed as this hunk. -/
theorem hasHunk_change {hunk : Hunk} {before after : Text}
    (h : Diff.hunks before after = [hunk]) (colored : Bool) (file : Path) :
    HasHunk (fun style => style.paint colored) file hunk.header (hunk.changes.map signed)
      (change colored file before after) := by
  refine ⟨_, isPrinted_map_signed colored hunk.changes, ?_, ?_⟩
  · rw [change, h, List.map_singleton, Output.concat_cons, Output.concat_nil, Output.append_empty]
    simp only [Report.hunk, Output.line, Output.out_append, String.append_assoc]
  · rw [change, h, List.map_singleton, Output.concat_cons, Output.concat_nil, Output.append_empty]
    rfl

/-! ## The change that is printed -/

variable {edit : Edit} {fs : FileSystem} {path file : Path} {mode : Mode} {before after : Text}
  {line inserted matchCount : Nat} {written : Bool}

/-- The change that is printed for an insertion has one hunk, which shows how the text afterwards
comes about from the text before. Under its header, the tokens of the range in the first text are
printed with a blank or a minus sign, and those of the range in the second text with a blank or a
plus sign. -/
theorem exists_hunk_of_run (h : (edit.run fs path mode).1 =
      .ok (.inserted file line inserted matchCount written before after)) :
    ∃ hunk : Hunk, Diff.hunks before after = [hunk] ∧ hunk.Shows before after ∧
      ∃ tokens, IsSigned tokens hunk ∧
        HasHunk (fun _ shown => shown) file hunk.header tokens (change false file before after) ∧
        ∀ colored, HasHunk (fun style => style.paint colored) file hunk.header tokens
          (change colored file before after) := by
  obtain ⟨insertion, hplan, rfl⟩ := Edit.exists_plan_of_run h
  obtain ⟨hunk, hhunks⟩ := Edit.exists_hunks_of_plan hplan
  have hshows := Hunk.shows_of_hunks_eq_singleton hhunks
  exact ⟨hunk, hhunks, hshows, hunk.changes.map signed, isSigned_map_signed hshows.isFramed,
    hasHunk_change hhunks false file, fun colored => hasHunk_change hhunks colored file⟩

/-- A last line that ends in a carriage return is a token, which is kept where the block has it
too. -/
theorem exists_hunk_around_kept_token :
    let edit : Edit :=
      ⟨⟨[⟨0, .equals ['a', '\r']⟩]⟩, .ofText ['z', '\n', 'a', '\r', 'q'], .after, true⟩
    let fs : FileSystem := ⟨[(["t"], .file (Text.bytes ['a', '\r']) 0o644)], []⟩
    let before : Text := ['a', '\r']
    let after : Text := ['a', '\r', '\n', 'z', '\n', 'a', '\r', 'q', '\n']
    let hunk : Hunk := ⟨⟨0, 0⟩,
      [.add ['a', '\r', '\n'], .add ['z', '\n'], .keep ['a', '\r'], .add ['q', '\n']]⟩
    (edit.run fs "t" .preview).1 = .ok (.inserted "t" 2 2 1 false before after) ∧
      hunk.Shows before after ∧
      (∃ tokens, IsSigned tokens hunk ∧ HasHunk (fun _ shown => shown) "t" "@@ -1 +1,4 @@" tokens
        (change false "t" before after)) ∧
      (change false "t" before after).out =
        "\n--- t (original)\n+++ t (patched)\n@@ -1 +1,4 @@\n+a\r\n+z\n a\r+q\n" := by
  intro edit fs before after hunk
  have hrun : (edit.run fs "t" .preview).1 = .ok (.inserted "t" 2 2 1 false before after) := by
    decide +kernel
  have hhunks : Diff.hunks before after = [hunk] := by decide +kernel
  have hheader : hunk.header = "@@ -1 +1,4 @@" := by decide +kernel
  obtain ⟨other, hother, hshows, tokens, hsigned, hplain, -⟩ := exists_hunk_of_run hrun
  obtain rfl : other = hunk := List.singleton_inj.1 (hother.symm.trans hhunks)
  rw [hheader] at hplain
  exact ⟨hrun, hshows, ⟨tokens, hsigned, hplain⟩, by decide +kernel⟩

end Report

end Graft
