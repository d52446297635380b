import Graft.Proofs.Edit.Plan
import Graft.Proofs.Text.Ending

/-!
# The line ending of a text after an insertion

An insertion keeps the way in which the lines of a text end, but for one case: a newline alone that
is put to a carriage return makes the other ending. It is put to the lines of the block, and to a
last line that was not terminated when the block goes below it.

* `Edit.plan_hasEnding_iff`: exactly where this case does not come up, all lines end as before, and
  the same for the line that tells the ending of the text.
-/

namespace Graft

variable {path : Path} {text blockText : Text} {s : Insertion} {ending : LineEnding} {index : Nat}

/-- The lines of a block take the ending of a text, unless carriage returns get in the way. -/
theorem Block.forall_ends_withEnding_iff (blockText : Text) (ending : LineEnding) :
    (∀ line ∈ ((ofText blockText).withEnding ending).lines,
        line.isTerminated → ending.Ends line) ↔
      ending = .crlf ∨ ∀ line ∈ (ofText blockText).lines, line.body.getLast? ≠ some '\r' := by
  rw [lines_withEnding_ofText, List.forall_mem_map]
  simp only [Line.isTerminated_append_chars, forall_const, LineEnding.ends_append_chars]
  constructor
  · intro h
    by_cases hending : ending = .crlf
    · exact .inl hending
    · exact .inr fun line hline => (h line hline).resolve_left hending
  · rintro (hending | h) line hline
    · exact .inl hending
    · exact .inr (h line hline)

namespace Edit

/-- The lines of a text keep their ending, unless a carriage return ends the last one and the block
goes below it. -/
theorem forall_ends_base_iff (h : text.HasEnding ending) (hne : text.lines ≠ []) :
    (∀ line ∈ base text.lines ending index, line.isTerminated → ending.Ends line) ↔
      ending = .crlf ∨ ¬(index = text.lines.length ∧ text.getLast? = some '\r') := by
  by_cases hindex : index = text.lines.length
  · subst hindex
    obtain ⟨front, last, hlines⟩ := (List.eq_nil_or_concat text.lines).resolve_left hne
    rw [List.concat_eq_append] at hlines
    have hends : ∀ line ∈ front ++ [last], line.isTerminated → ending.Ends line :=
      hlines ▸ h.ends
    rw [Text.getLast?_of_lines hlines, hlines, base_length, List.forall_mem_append,
      List.forall_mem_singleton]
    simp only [true_and]
    rw [← LineEnding.ends_terminate (hends last (by simp))]
    have hfront : ∀ line ∈ front, line.isTerminated → ending.Ends line :=
      fun line hline => hends line (by simp [hline])
    have hlast := Line.isTerminated_terminate last ending
    exact ⟨fun hall => hall.2 hlast, fun hall => ⟨hfront, fun _ => hall⟩⟩
  · rw [base, if_neg hindex]
    exact iff_of_true h.ends (.inr fun hlast => hindex hlast.1)

/-- The first line keeps its ending, unless a carriage return is at its end, it is the only one, and
the block goes below it. -/
theorem exists_base_eq_cons (h : text.HasEnding ending) (hpos : 0 < index)
    (hindex : index ≤ text.lines.length) :
    ∃ first rest, base text.lines ending index = first :: rest ∧ first.isTerminated ∧
      (ending.Ends first ↔
        ending = .crlf ∨ ¬(text.lines.length = 1 ∧ text.getLast? = some '\r')) := by
  have hcut := Text.isCut_lines text
  have hends := h.ends
  cases hlines : text.lines with
  | nil =>
    rw [hlines] at hindex
    exact absurd hindex (Nat.not_le_of_lt hpos)
  | cons first rest =>
    rw [hlines] at hindex hcut hends
    cases rest with
    | nil =>
      have hone : index = [first].length := Nat.le_antisymm hindex hpos
      have hlast : text.getLast? = first.getLast? :=
        Text.getLast?_of_lines (show text.lines = [] ++ [first] from hlines)
      have hbase : base [first] ending [first].length = [first.terminate ending] :=
        base_length [] first
      refine ⟨_, _, hone ▸ hbase, first.isTerminated_terminate ending, ?_⟩
      rw [LineEnding.ends_terminate (hends first List.mem_cons_self), hlast]
      simp
    | cons next rest =>
      have hterm := hcut.isTerminated first (by simp)
      refine ⟨first, (base (first :: next :: rest) ending index).tail, ?_, hterm, ?_⟩
      · rw [base]
        split <;> simp
      · exact iff_of_true (hends first List.mem_cons_self hterm) (.inr (by simp))

variable {edit : Edit}

/-- All lines end as before exactly if this holds of the lines that were there and of those of the
block. -/
theorem hasEnding_iff_of_plan (h : text.HasEnding ending) (hblock : edit.block = .ofText blockText)
    (hplan : edit.plan (.ofText path text) = .ok (.insert s)) :
    s.text.HasEnding ending ↔ ending = .crlf ∨
      (∀ line ∈ (Block.ofText blockText).lines, line.body.getLast? ≠ some '\r') ∧
        ¬(s.index = text.lines.length ∧ text.getLast? = some '\r') := by
  obtain ⟨hne, -, hlines⟩ := lines_of_plan hplan
  rw [h.detect_eq, hblock] at hlines
  have hsplice : (∀ line ∈ s.lines, line.isTerminated → ending.Ends line) ↔
      (∀ line ∈ base text.lines ending s.index, line.isTerminated → ending.Ends line) ∧
        ∀ line ∈ ((Block.ofText blockText).withEnding ending).lines,
          line.isTerminated → ending.Ends line := by
    conv_rhs => rw [← List.take_append_drop s.index (base text.lines ending s.index)]
    rw [hlines, List.forall_mem_append, List.forall_mem_append, List.forall_mem_append]
    tauto
  rw [or_and_left, ← Block.forall_ends_withEnding_iff, and_comm, ← forall_ends_base_iff h hne,
    ← hsplice, ← lines_text_of_plan hblock hplan]
  refine ⟨Text.HasEnding.ends, fun hends => ⟨hends, fun hnone => ?_⟩⟩
  -- there is a terminated line, since the block has one
  have hcore : (Block.ofText blockText).core ≠ [] := hblock ▸ (plan_eq_insert_iff.1 hplan).1
  obtain ⟨line, hline⟩ :=
    List.exists_mem_of_ne_nil ((Block.ofText blockText).withEnding ending).lines
      (by simpa [Block.withEnding] using Block.lines_ne_nil_of_core hcore)
  refine absurd (Block.isProper_of_mem_withEnding hline).2 (hnone line ?_)
  rw [lines_text_of_plan hblock hplan, hlines]
  simp [hline]

/-- The ending that a text is told to have stays the same exactly if its first line has it. -/
theorem detect_iff_of_plan (h : text.HasEnding ending) (hblock : edit.block = .ofText blockText)
    (hplan : edit.plan (.ofText path text) = .ok (.insert s)) :
    LineEnding.detect s.text = ending ↔ ending = .crlf ∨
      (s.index = 0 → ∀ first ∈ (Block.ofText blockText).lines.head?,
        first.body.getLast? ≠ some '\r') ∧
        (s.index ≠ 0 → ¬(text.lines.length = 1 ∧ text.getLast? = some '\r')) := by
  obtain ⟨-, hindex, hlines⟩ := lines_of_plan hplan
  have htext := lines_text_of_plan hblock hplan
  rw [h.detect_eq] at hlines
  rcases Nat.eq_zero_or_pos s.index with hzero | hpos
  · -- the first line of the block comes first
    have hcore := (plan_eq_insert_iff.1 hplan).1
    obtain ⟨first, rest, hfirst⟩ :=
      List.exists_cons_of_ne_nil (Block.lines_ne_nil_of_core hcore)
    rw [hblock] at hfirst hlines
    rw [hlines, hzero, List.take_zero, List.nil_append, Block.lines_withEnding_ofText, hfirst,
      List.map_cons, List.cons_append] at htext
    rw [LineEnding.detect_eq_iff htext (Line.isTerminated_append_chars _ _),
      LineEnding.ends_append_chars]
    simp [hzero, hfirst]
  · -- the first line of the text comes first
    obtain ⟨first, rest, hbase, hterm, hends⟩ := exists_base_eq_cons h hpos hindex
    obtain ⟨n, hn⟩ := Nat.exists_eq_succ_of_ne_zero (Nat.ne_of_gt hpos)
    rw [hlines, hbase, hn, Nat.succ_eq_add_one, List.take_succ_cons, List.cons_append,
      List.cons_append] at htext
    rw [LineEnding.detect_eq_iff htext hterm, hends]
    simp [Nat.ne_of_gt hpos]

/-- After an insertion all lines of a text end as before, except where a newline alone is put to a
carriage return: to one at the end of what a line of the block says, or at the end of a last line
below which the block goes. The ending that the text is told to have stays the same, except where
this happens to the first line. -/
theorem plan_hasEnding_iff (pattern : Pattern) (placement : Placement) (skip : Bool)
    (h : text.HasEnding ending)
    (hplan : (⟨pattern, .ofText blockText, placement, skip⟩ : Edit).plan (.ofText path text) =
      .ok (.insert s)) :
    (s.text.HasEnding ending ↔ ending = .crlf ∨
        (∀ line ∈ (Block.ofText blockText).lines, line.body.getLast? ≠ some '\r') ∧
          ¬(s.index = text.lines.length ∧ text.getLast? = some '\r')) ∧
      (LineEnding.detect s.text = LineEnding.detect text ↔ ending = .crlf ∨
        (s.index = 0 → ∀ first ∈ (Block.ofText blockText).lines.head?,
          first.body.getLast? ≠ some '\r') ∧
          (s.index ≠ 0 → ¬(text.lines.length = 1 ∧ text.getLast? = some '\r'))) := by
  rw [h.detect_eq]
  exact ⟨hasEnding_iff_of_plan h rfl hplan, detect_iff_of_plan h rfl hplan⟩

/-- A block goes below a last line that is not terminated; both get the ending of the text. -/
theorem plan_hasEnding_behind_unterminated :
    let edit : Edit := ⟨⟨[⟨0, .equals ['b']⟩]⟩, .ofText ['x', '\r', '\n', '\r', 'y'], .after, true⟩
    let text : Text := ['a', '\n', 'b']
    let s : Insertion :=
      ⟨1, 2, 1, 2, [['a', '\n'], ['b', '\n'], ['x', '\n'], ['\r', 'y', '\n']]⟩
    text.HasEnding .lf ∧ edit.plan (.ofText "f" text) = .ok (.insert s) ∧ s.text.HasEnding .lf ∧
      LineEnding.detect s.text = LineEnding.detect text := by
  intro edit text s
  have hplan : edit.plan (.ofText "f" text) = .ok (.insert s) := by decide +kernel
  have htext : text.HasEnding .lf := ⟨by decide, fun _ => rfl⟩
  have hkept := plan_hasEnding_iff _ .after true htext hplan
  exact ⟨htext, hplan, hkept.1.2 (.inr ⟨by decide, by decide⟩),
    hkept.2.2 (.inr ⟨by decide, by decide⟩)⟩

/-- A newline alone that is put to a carriage return makes the other ending. -/
example :
    let edit : Edit := ⟨⟨[⟨0, .equals ['a']⟩]⟩, .ofText ['x', '\r', '\r', '\n'], .before, true⟩
    let s : Insertion := ⟨0, 0, 1, 1, [['x', '\r', '\n'], ['a', '\n']]⟩
    edit.plan (.ofText "f" ['a', '\n']) = .ok (.insert s) ∧ LineEnding.detect s.text = .crlf := by
  decide +kernel

end Edit

end Graft
