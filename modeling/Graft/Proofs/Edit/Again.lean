import Graft.Proofs.Block.Search
import Graft.Proofs.Edit.Plan
import Mathlib.Logic.Function.Iterate

/-!
# Planning an edit again

An edit that leaves present blocks alone looks for the bodies of the core of its block. What it has
inserted before is found by them as long as no body changes when its line is given the ending of the
text.

* `Block.StandsAt.eq_length`: among blank lines, a core is found nowhere but in its own place.
* `Block.KeepsBodies`: when the bodies of a core are not changed by an ending.
* `Edit.plan_again_iff`: when an edit finds in every text what it has inserted there.
-/

namespace Graft

namespace Block

variable {block : Block} {lines front mid back : List Line}

/-- Among blank lines, a core is found nowhere but in its own place. -/
theorem StandsAt.eq_length {i : Nat} (h : block.StandsAt (front ++ mid ++ back) i)
    (hcore : block.core ≠ []) (hfront : ∀ line ∈ front, line.isBlank)
    (hback : ∀ line ∈ back, line.isBlank) (hmid : mid.length = block.core.length) :
    i = front.length := by
  obtain ⟨first, hfirst⟩ := Option.isSome_iff_exists.1 (List.isSome_head?.2 hcore)
  obtain ⟨last, hlast⟩ := Option.isSome_iff_exists.1 (List.getLast?_isSome.2 hcore)
  have hpos := List.length_pos_iff.2 hcore
  refine Nat.le_antisymm ?_ ?_
  · -- the last line of the core is not blank, so the window ends before the blank lines at the end
    rw [List.getLast?_eq_getElem?] at hlast
    obtain ⟨other, hother, hbody⟩ := h.exists_line hlast
    by_contra hlt
    rw [List.getElem?_append_right (by simp; omega)] at hother
    refine not_isBlank_of_getLast?_core (List.getLast?_eq_getElem? ▸ hlast) ?_
    rw [Line.isBlank, ← hbody]
    exact hback other (List.mem_of_getElem? hother)
  · -- nor is the first
    rw [List.head?_eq_getElem?] at hfirst
    obtain ⟨other, hother, hbody⟩ := h.exists_line hfirst
    by_contra hlt
    rw [List.append_assoc, List.getElem?_append_left (by omega)] at hother
    refine not_isBlank_of_head?_core (List.head?_eq_getElem? ▸ hfirst) ?_
    rw [Line.isBlank, ← hbody]
    exact hfront other (List.mem_of_getElem? hother)

/-- Every body in the core is still the body of its line when the line gets the ending. -/
def KeepsBodies (block : Block) (ending : LineEnding) : Prop :=
  ending = .crlf ∨ ∀ line ∈ block.core, line.body.getLast? ≠ some '\r'

theorem keepsBodies_iff {ending : LineEnding} :
    block.KeepsBodies ending ↔
      ∀ line ∈ block.core, Line.body (line.body ++ ending.chars) = line.body := by
  simp only [KeepsBodies, Line.body_append_chars]
  by_cases h : ending = .crlf <;> simp [h]

/-- A core that was written with an ending is found in its own place when every body is kept. -/
theorem find?_isSome_of_kept {ending : LineEnding} {i : Nat} (hcore : block.core ≠ [])
    (hkept : ∀ line ∈ block.core, Line.body (line.body ++ ending.chars) = line.body)
    (h : (lines.drop i).take block.lines.length =
      block.lines.map fun line => line.body ++ ending.chars) : (block.find? lines).isSome := by
  obtain ⟨front, back, hlines, -, -⟩ := lines_eq_core block
  refine find?_isSome_iff.2 ⟨hcore, i + front.length, ?_⟩
  -- the window of the core within the window of the whole block
  have hwindow : (lines.drop (i + front.length)).take block.core.length =
      block.core.map fun line => line.body ++ ending.chars := by
    have hdrop := congrArg (fun written => (written.drop front.length).take block.core.length) h
    simp only [hlines, List.drop_take, List.drop_drop, List.take_take, List.length_append,
      List.map_append, List.append_assoc] at hdrop
    rw [Nat.min_eq_left (by omega), List.drop_left' (List.length_map _),
      List.take_left' (List.length_map _)] at hdrop
    exact hdrop
  rw [StandsAt, hwindow, List.map_map]
  exact List.map_congr_left hkept

/-- A core that was written with an ending among blank lines is found only when every body is
kept. -/
theorem kept_of_find?_isSome {ending : LineEnding} (hfront : ∀ line ∈ front, line.isBlank)
    (hback : ∀ line ∈ back, line.isBlank)
    (h : (block.find? (front ++ block.core.map (fun line => line.body ++ ending.chars) ++
      back)).isSome) :
    ∀ line ∈ block.core, Line.body (line.body ++ ending.chars) = line.body := by
  obtain ⟨hcore, i, hi⟩ := find?_isSome_iff.1 h
  obtain rfl := hi.eq_length hcore hfront hback (List.length_map _)
  rw [StandsAt, List.append_assoc, List.drop_left, List.take_left' (List.length_map _),
    List.map_map] at hi
  exact List.map_inj_left.1 hi

end Block

namespace Edit

/-- The text that an edit leaves of a text. -/
def rewrite (edit : Edit) (path : Path) (text : Text) : Text :=
  match edit.plan (.ofText path text) with
  | .ok (.insert s) => s.text
  | _ => text

variable {edit : Edit} {path : Path} {text blockText : Text} {s : Insertion}

/-- An edit that leaves present blocks alone does so exactly where its block is found. -/
theorem plan_eq_alreadyPresent_iff_find? (hskip : edit.skipIfPresent) :
    (∃ line, edit.plan (.ofText path text) = .ok (.alreadyPresent line)) ↔
      (edit.block.find? text.lines).isSome := by
  have hlines : (Snapshot.ofText path text).lines = text.lines := rfl
  have hcore : (edit.block.find? text.lines).isSome → edit.block.core ≠ [] :=
    fun h => (Block.find?_isSome_iff.1 h).1
  simp only [plan_eq_alreadyPresent_iff, present?, if_pos hskip, hlines]
  constructor
  · rintro ⟨_, -, index, hfind, rfl⟩
    rw [hfind]
    rfl
  · intro h
    obtain ⟨index, hindex⟩ := Option.isSome_iff_exists.1 h
    exact ⟨index + 1, hcore h, index, hindex, rfl⟩

/-- What an edit has inserted is found again when every body of the core is kept. -/
theorem plan_again_of_kept (hblock : edit.block = .ofText blockText) (hskip : edit.skipIfPresent)
    (hkept : ∀ line ∈ edit.block.core,
      Line.body (line.body ++ (LineEnding.detect text).chars) = line.body)
    (hplan : edit.plan (.ofText path text) = .ok (.insert s)) :
    ∃ line, edit.plan (.ofText path s.text) = .ok (.alreadyPresent line) := by
  obtain ⟨hcore, -, anchor, rest, hfound, hs⟩ := plan_eq_insert_iff.1 hplan
  have hsplice := isSplice_of_insertionAt hblock hcore hfound hs
  rw [plan_eq_alreadyPresent_iff_find? hskip, hsplice.lines_text]
  have hwindow := hsplice.take_drop_lines
  rw [hsplice.inserted_eq] at hwindow
  exact Block.find?_isSome_of_kept hcore hkept hwindow

/-- Running an edit again changes nothing more when every body of the core is kept. -/
theorem iterate_rewrite_of_kept (hblock : edit.block = .ofText blockText)
    (hskip : edit.skipIfPresent)
    (hkept : ∀ line ∈ edit.block.core,
      Line.body (line.body ++ (LineEnding.detect text).chars) = line.body) (n : Nat) :
    (edit.rewrite path)^[n + 1] text = edit.rewrite path text := by
  -- what a run leaves behind, a second run leaves as it is
  have hfixed : edit.rewrite path (edit.rewrite path text) = edit.rewrite path text := by
    cases hplan : edit.plan (.ofText path text) with
    | error e => simp [rewrite, hplan]
    | ok verdict =>
      cases verdict with
      | alreadyPresent line => simp [rewrite, hplan]
      | insert s =>
        obtain ⟨line, hagain⟩ := plan_again_of_kept hblock hskip hkept hplan
        simp [rewrite, hplan, hagain]
  induction n with
  | zero => rfl
  | succ n ih => rw [Function.iterate_succ_apply', ih, hfixed]

/-- A block goes below a line that is empty, and nothing goes between. -/
theorem plan_below_empty_line (path : Path) (hcore : (Block.ofText blockText).core ≠ []) :
    ∃ s, (⟨⟨[⟨0, .blank⟩]⟩, .ofText blockText, .after, true⟩ : Edit).plan
        (.ofText path ['\n']) = .ok (.insert s) ∧
      Text.lines s.text = [['\n']] ++ (Block.ofText blockText).lines.map fun line =>
        line.body ++ LineEnding.lf.chars := by
  have hlines : (Snapshot.ofText path ['\n']).lines = [['\n']] := rfl
  have hending : (Snapshot.ofText path ['\n']).ending = .lf := rfl
  generalize hedit : (⟨⟨[⟨0, .blank⟩]⟩, .ofText blockText, .after, true⟩ : Edit) = edit
  have hblock : edit.block = .ofText blockText := by rw [← hedit]
  have hplacement : edit.placement = .after := by rw [← hedit]
  have hfound : edit.pattern.locateAll (Text.lines ['\n']) = [0] := by
    rw [← hedit]
    show Pattern.locateAll ⟨[⟨0, .blank⟩]⟩ (Text.lines ['\n']) = [0]
    decide
  have habsent : edit.present? (.ofText path ['\n']) = none := by
    -- the first line of the core is not blank, the only line of the text is
    rw [present?, hlines, hblock]
    split
    next =>
      rw [← Option.not_isSome_iff_eq_none, Block.find?_isSome_iff]
      rintro ⟨-, i, hi⟩
      obtain ⟨first, hfirst⟩ := Option.isSome_iff_exists.1 (List.isSome_head?.2 hcore)
      rw [List.head?_eq_getElem?] at hfirst
      obtain ⟨other, hother, hbody⟩ := hi.exists_line hfirst
      refine Block.not_isBlank_of_head?_core (List.head?_eq_getElem? ▸ hfirst) ?_
      rw [Line.isBlank, ← hbody, List.mem_singleton.1 (List.mem_of_getElem? hother)]
      decide
    next => rfl
  have hlt : 0 < (Snapshot.ofText path ['\n']).lines.length := Nat.zero_lt_one
  have hinsertion := edit.insertionAt_of_lt 1 hlt
  refine ⟨_, plan_eq_insert_iff.2 ⟨hblock ▸ hcore, habsent, 0, [], hfound, hinsertion⟩, ?_⟩
  rw [(isSplice_of_insertionAt hblock (hblock ▸ hcore) hfound hinsertion).lines_text, hlines,
    hending, hblock, Block.lines_withEnding_ofText, hplacement]
  simp [Placement.index, base, Line.terminate, Line.isTerminated]

/-- An edit finds in every text what it has inserted there exactly when the bodies in the core of
its block are kept under the ending of the text. Running it again then changes nothing more. -/
theorem plan_again_iff (blockText : Text) (ending : LineEnding) :
    ((∀ (pattern : Pattern) (placement : Placement) (path : Path) (text : Text) (s : Insertion),
        let edit : Edit := ⟨pattern, .ofText blockText, placement, true⟩
        LineEnding.detect text = ending → edit.plan (.ofText path text) = .ok (.insert s) →
          ∃ line, edit.plan (.ofText path s.text) = .ok (.alreadyPresent line)) ↔
      (Block.ofText blockText).KeepsBodies ending) ∧
    ((Block.ofText blockText).KeepsBodies ending →
      ∀ (pattern : Pattern) (placement : Placement) (path : Path) (text : Text) (n : Nat),
        let edit : Edit := ⟨pattern, .ofText blockText, placement, true⟩
        LineEnding.detect text = ending →
          (edit.rewrite path)^[n + 1] text = edit.rewrite path text) := by
  refine ⟨⟨fun hagain => ?_, ?_⟩, ?_⟩
  · rw [Block.keepsBodies_iff]
    by_cases hcore : (Block.ofText blockText).core = []
    · simp [hcore]
    cases ending with
    | crlf => exact Block.keepsBodies_iff.1 (.inl rfl)
    | lf =>
      obtain ⟨s, hplan, hlines⟩ := plan_below_empty_line "" hcore
      have hfind := (plan_eq_alreadyPresent_iff_find? rfl).1 (hagain _ _ _ _ s (by decide) hplan)
      -- the core is found below the empty line, with blank lines of the block around it
      obtain ⟨front, back, hblock, hfront, hback⟩ := Block.lines_eq_core (.ofText blockText)
      rw [hlines, hblock, List.map_append, List.map_append, ← List.append_assoc,
        ← List.append_assoc] at hfind
      refine Block.kept_of_find?_isSome ?_ ?_ hfind
      · intro line hline
        rcases List.mem_append.1 hline with hline | hline
        · rw [List.mem_singleton.1 hline]
          decide
        · obtain ⟨old, hold, rfl⟩ := List.mem_map.1 hline
          rw [Line.isBlank_append_chars]
          exact hfront old hold
      · intro line hline
        obtain ⟨old, hold, rfl⟩ := List.mem_map.1 hline
        rw [Line.isBlank_append_chars]
        exact hback old hold
  · rintro hkeeps pattern placement path text s edit rfl hplan
    exact plan_again_of_kept rfl rfl (Block.keepsBodies_iff.1 hkeeps) hplan
  · rintro hkeeps pattern placement path text n edit rfl
    exact iterate_rewrite_of_kept rfl rfl (Block.keepsBodies_iff.1 hkeeps) n

/-- A block of one line is found again. -/
theorem plan_again_single_line :
    let edit : Edit := ⟨⟨[⟨0, .equals ['a']⟩]⟩, .ofText ['x'], .after, true⟩
    (Block.ofText ['x']).KeepsBodies .lf ∧
      (∃ line, edit.plan (.ofText "f" ['a', '\n', 'x', '\n']) = .ok (.alreadyPresent line)) ∧
      (edit.rewrite "f")^[3] ['a', '\n'] = edit.rewrite "f" ['a', '\n'] := by
  intro edit
  have hkeeps : (Block.ofText ['x']).KeepsBodies .lf := .inr (by decide)
  have hplan : edit.plan (.ofText "f" ['a', '\n']) =
      .ok (.insert ⟨0, 1, 1, 1, [['a', '\n'], ['x', '\n']]⟩) := by
    decide +kernel
  obtain ⟨hagain, hiterate⟩ := plan_again_iff ['x'] .lf
  exact ⟨hkeeps, hagain.2 hkeeps _ .after "f" ['a', '\n'] _ rfl hplan,
    hiterate hkeeps _ .after "f" ['a', '\n'] 2 rfl⟩

/-- A carriage return before the terminator of a line is lost, and the block goes in again. -/
example :
    let edit : Edit := ⟨⟨[⟨0, .equals ['a']⟩]⟩, .ofText ['x', '\r', '\r', '\n'], .after, true⟩
    edit.rewrite "f" ['a', '\n'] = ['a', '\n', 'x', '\r', '\n'] ∧
      edit.rewrite "f" ['a', '\n', 'x', '\r', '\n'] =
        ['a', '\n', 'x', '\r', '\n', 'x', '\r', '\n'] := by
  decide +kernel

end Edit

end Graft
