import Graft.Proofs.Block.Insertion
import Graft.Proofs.Edit.Again
import Graft.Proofs.Text.Pieces

/-!
# Blocks that stay present

Without carriage returns, lines keep their bodies however they are terminated. So a block is still
there after an edit that does not cut it apart, and after one that puts it in.

* `Edit.find?_isSome_of_spared`: a block that is spared by an insertion is found afterwards.
* `Block.find?_ofText_self`: a text has the block that it makes.
-/

namespace Graft

/-! ## Without carriage returns -/

namespace Line

variable {line : Line} {c : Char}

theorem mem_of_mem_body (h : c ∈ line.body) : c ∈ line := by
  rw [body] at h
  split at h
  · split at h
    · exact List.mem_of_mem_dropLast (List.mem_of_mem_dropLast h)
    · exact List.mem_of_mem_dropLast h
  · exact h

theorem body_terminate (h : '\r' ∉ line) : body (terminate .lf line) = body line := by
  rw [terminate]
  split
  next => rfl
  next hterm =>
    have hbody : body line = line := by rw [body, if_neg hterm]
    -- the line is all body, and does not end in a carriage return
    rw [hbody, body_append_chars]
    exact .inr fun hlast => h (List.mem_of_getLast? hlast)

end Line

namespace Text

variable {t : Text} {line : Line} {c : Char}

theorem mem_of_mem_lines (hline : line ∈ t.lines) (hc : c ∈ line) : c ∈ t := by
  rw [← flatten_lines t]
  exact List.mem_flatten_of_mem hline hc

/-- A text without carriage returns ends its lines with a newline alone. -/
theorem detect_of_plain (h : '\r' ∉ t) : LineEnding.detect t = .lf := by
  rw [LineEnding.detect]
  split
  next before after hcut =>
    rw [if_neg]
    intro hlast
    obtain ⟨rfl, -⟩ := cut?_eq_some_iff.1 hcut
    exact h (List.mem_append_left _ (List.mem_of_getLast? hlast))
  next => rfl

end Text

namespace Block

variable {t : Text}

/-- The lines of a text without carriage returns keep their bodies in the block of the text. -/
theorem map_body_ofText (h : '\r' ∉ t) :
    (ofText t).lines.map Line.body = t.lines.map Line.body := by
  rw [ofText, List.map_map]
  refine List.map_congr_left fun line hline => ?_
  exact Line.body_terminate fun hc => h (Text.mem_of_mem_lines hline hc)

theorem not_mem_body_of_ofText (h : '\r' ∉ t) {line : Line} (hline : line ∈ (ofText t).lines) :
    '\r' ∉ line.body := by
  have hbody : line.body ∈ t.lines.map Line.body := by
    rw [← map_body_ofText h]
    exact List.mem_map_of_mem hline
  obtain ⟨old, hold, heq⟩ := List.mem_map.1 hbody
  rw [← heq]
  exact fun hc => h (Text.mem_of_mem_lines hold (Line.mem_of_mem_body hc))

/-- A text has the block that it makes. -/
theorem find?_ofText_self (h : '\r' ∉ t) (hcore : (ofText t).core ≠ []) :
    ((ofText t).find? t.lines).isSome := by
  obtain ⟨front, back, hlines, -, -⟩ := lines_eq_core (ofText t)
  refine find?_isSome_iff.2 ⟨hcore, front.length, ?_⟩
  rw [← standsAt_congr (map_body_ofText h), StandsAt, hlines, List.append_assoc, List.drop_left,
    List.take_left]

end Block

namespace Edit

variable {edit : Edit} {path : Path} {text blockText : Text} {s : Insertion} {block : Block}

theorem map_body_base (h : '\r' ∉ text) (index : Nat) :
    (base text.lines .lf index).map Line.body = text.lines.map Line.body := by
  rw [base]
  split
  next =>
    -- only the last line may get a terminator
    rcases List.eq_nil_or_concat text.lines with hnil | ⟨front, last, hlines⟩
    · rw [hnil]
      rfl
    · have hlast : '\r' ∉ last := fun hc => h (Text.mem_of_mem_lines (by simp [hlines]) hc)
      rw [hlines]
      simp [Line.body_terminate hlast]
  next => rfl

/-- The planned lines are those of the text with others put in. -/
theorem exists_map_body_of_plan (htext : '\r' ∉ text)
    (hplan : edit.plan (.ofText path text) = .ok (.insert s)) :
    s.index ≤ text.lines.length ∧ ∃ new : List Line, s.lines.map Line.body =
      (text.lines.take s.index ++ new ++ text.lines.drop s.index).map Line.body := by
  obtain ⟨-, hindex, hlines⟩ := lines_of_plan hplan
  refine ⟨hindex, (edit.block.withEnding .lf).lines, ?_⟩
  rw [Text.detect_of_plain htext] at hlines
  simp only [hlines, List.map_append, List.map_take, List.map_drop, map_body_base htext]

/-- An insertion of a block without carriage returns brings none into the text. -/
theorem plain_of_plan (hblock : edit.block = .ofText blockText) (htext : '\r' ∉ text)
    (hplain : '\r' ∉ blockText) (hplan : edit.plan (.ofText path text) = .ok (.insert s)) :
    '\r' ∉ s.text := by
  obtain ⟨hcore, -, anchor, rest, hfound, hs⟩ := plan_eq_insert_iff.1 hplan
  obtain ⟨u, v, huv, -, hs⟩ := (isSplice_of_insertionAt hblock hcore hfound hs).text_eq
  have hchars : '\r' ∉ (LineEnding.detect text).chars := by
    rw [Text.detect_of_plain htext]
    decide
  have hgap : '\r' ∉ gap text (.detect text) s.index := by
    rw [gap]
    split
    · exact hchars
    · exact List.not_mem_nil
  have hwritten : '\r' ∉ (edit.block.lines.map fun line =>
      line.body ++ (LineEnding.detect text).chars).flatten := by
    intro hc
    obtain ⟨written, hwritten, hc⟩ := List.mem_flatten.1 hc
    obtain ⟨line, hline, rfl⟩ := List.mem_map.1 hwritten
    rw [hblock] at hline
    exact (List.mem_append.1 hc).elim (Block.not_mem_body_of_ofText hplain hline) hchars
  -- the text is the old one with the gap and the block in it
  rw [huv, List.mem_append, not_or] at htext
  rw [hs]
  simp only [List.mem_append, not_or]
  exact ⟨⟨⟨htext.1, hgap⟩, hwritten⟩, htext.2⟩

/-- A block that is spared by an insertion is found afterwards. -/
theorem find?_isSome_of_spared (hblock : edit.block = .ofText blockText) (htext : '\r' ∉ text)
    (hplan : edit.plan (.ofText path text) = .ok (.insert s)) (hcore : block.core ≠ [])
    (hspared : block.IsSpared text.lines s.index) : (block.find? (Text.lines s.text)).isSome := by
  obtain ⟨hindex, new, hbodies⟩ := exists_map_body_of_plan htext hplan
  obtain ⟨i, hi⟩ := hspared.exists_standsAt hindex new
  rw [lines_text_of_plan hblock hplan]
  exact Block.find?_isSome_iff.2 ⟨hcore, i, (Block.standsAt_congr hbodies).2 hi⟩

/-- A block without carriage returns that was put in is found afterwards. -/
theorem find?_isSome_of_plan (hblock : edit.block = .ofText blockText)
    (hskip : edit.skipIfPresent) (hplain : '\r' ∉ blockText)
    (hplan : edit.plan (.ofText path text) = .ok (.insert s)) :
    (edit.block.find? (Text.lines s.text)).isSome := by
  rw [← plan_eq_alreadyPresent_iff_find? hskip]
  refine plan_again_of_kept hblock hskip (fun line hline => ?_) hplan
  rw [Line.body_append_chars]
  refine .inr fun hlast => ?_
  obtain ⟨front, back, hlines, -, -⟩ := Block.lines_eq_core edit.block
  have hmem : line ∈ (Block.ofText blockText).lines := by
    rw [← hblock, hlines]
    simp [hline]
  exact Block.not_mem_body_of_ofText hplain hmem (List.mem_of_getLast? hlast)

end Edit

end Graft
