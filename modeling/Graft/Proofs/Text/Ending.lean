import Graft.Proofs.Text.Lines
import Graft.Proofs.Text.Pieces

/-!
# The endings of lines

What it is for a line, and for all lines of a text, to end in one way.

* `LineEnding.ends_append_chars`: an ending that is put to a text is the ending of the line, unless
  it is a newline alone and the text ends in a carriage return.
* `LineEnding.detect_eq_iff`, `LineEnding.detect_eq_crlf_iff`: the ending of a text is told by its
  first line.
* `Text.HasEnding.detect_eq`: where all lines end in one way, that is the ending of the text.
* `Text.lines_withEnding`, `Line.body_withEnding_crlf`: a text with other endings has as many lines,
  and with carriage returns at their ends they keep their bodies.
* `Text.lines_inverse_flatten`: cutting a text and putting its lines together undo each other.
-/

namespace Graft

variable {line first : Line} {body t : Text} {ending : LineEnding}

namespace LineEnding

/-- The lines that end in a line ending. A newline with a carriage return before it is the other
ending. -/
def Ends : LineEnding → Line → Prop
  | lf, line => ['\n'] <:+ line ∧ ¬['\r', '\n'] <:+ line
  | crlf, line => ['\r', '\n'] <:+ line

instance (ending : LineEnding) (line : Line) : Decidable (ending.Ends line) :=
  match ending with
  | lf => inferInstanceAs (Decidable (['\n'] <:+ line ∧ ¬['\r', '\n'] <:+ line))
  | crlf => inferInstanceAs (Decidable (['\r', '\n'] <:+ line))

theorem crlf_suffix_append_newline :
    ['\r', '\n'] <:+ body ++ ['\n'] ↔ body.getLast? = some '\r' := by
  have hsplit : ['\r', '\n'] = ['\r'] ++ ['\n'] := rfl
  rw [hsplit, List.suffix_append_inj_of_length_eq rfl, and_iff_left rfl,
    List.getLast?_eq_some_iff]
  exact exists_congr fun _ => eq_comm

theorem Ends.isTerminated (h : ending.Ends line) : line.isTerminated := by
  rw [Line.isTerminated_iff]
  cases ending with
  | lf => exact h.1.imp fun _ => Eq.symm
  | crlf =>
    obtain ⟨body, rfl⟩ := h
    exact ⟨body ++ ['\r'], by simp⟩

/-- A terminated line has one of the endings. -/
theorem ends_lf_iff (h : line.isTerminated) : lf.Ends line ↔ ¬crlf.Ends line := by
  obtain ⟨body, rfl⟩ := Line.isTerminated_iff.1 h
  exact and_iff_right (List.suffix_append body _)

/-- An ending that is put to a text is the ending of the line, unless it is a newline alone and the
text ends in a carriage return. -/
theorem ends_append_chars :
    ending.Ends (body ++ ending.chars) ↔ ending = .crlf ∨ body.getLast? ≠ some '\r' := by
  cases ending with
  | lf =>
    rw [ends_lf_iff (Line.isTerminated_append_chars body .lf), chars, Ends,
      crlf_suffix_append_newline]
    simp
  | crlf => simp [Ends, chars]

/-- The same holds for a line that gets the ending only where it has none. -/
theorem ends_terminate (h : line.isTerminated → ending.Ends line) :
    ending.Ends (line.terminate ending) ↔ ending = .crlf ∨ line.getLast? ≠ some '\r' := by
  rw [Line.terminate]
  split
  next hterm =>
    have hlast : line.getLast? ≠ some '\r' := by
      rw [Line.isTerminated, decide_eq_true_eq] at hterm
      simp [hterm]
    exact iff_of_true (h hterm) (.inr hlast)
  next => exact ends_append_chars

/-- The ending of a text is told by its first line, if that is terminated. -/
theorem detect_eq_iff {rest : List Line} (hlines : t.lines = first :: rest)
    (hterm : first.isTerminated) : detect t = ending ↔ ending.Ends first := by
  obtain ⟨hcut, htext⟩ := Text.lines_eq_iff.1 hlines
  obtain ⟨before, rfl⟩ := Line.isTerminated_iff.1 hterm
  have hbefore : '\n' ∉ before := by
    have := (hcut.isProper _ List.mem_cons_self).newline_not_mem_dropLast
    rwa [List.dropLast_concat] at this
  have hfirst : Text.cut? '\n' t = some (before, rest.flatten) := by
    rw [Text.cut?_eq_some_iff, ← htext]
    exact ⟨by simp, hbefore⟩
  simp only [detect, hfirst]
  cases ending with
  | lf =>
    rw [ends_lf_iff hterm, Ends, crlf_suffix_append_newline]
    split <;> simp_all
  | crlf =>
    rw [Ends, crlf_suffix_append_newline]
    split <;> simp_all

/-- A text that is one line without a terminator has no newline to tell its ending. -/
theorem detect_of_not_isTerminated (hlines : t.lines = [first]) (hterm : ¬first.isTerminated) :
    detect t = .lf := by
  obtain ⟨hcut, htext⟩ := Text.lines_eq_iff.1 hlines
  have hline : '\n' ∉ t := by
    rw [← htext, List.flatten_singleton]
    exact (hcut.isProper first List.mem_cons_self).newline_not_mem hterm
  rw [detect, Text.cut?_eq_none_iff.2 hline]

/-- The ending of a text is a carriage return and a newline where its first line ends in both. -/
theorem detect_eq_crlf_iff : detect t = .crlf ↔ ∃ first ∈ t.lines.head?, crlf.Ends first := by
  cases hlines : t.lines with
  | nil =>
    have htext : t = [] := by rw [← Text.flatten_lines t, hlines, List.flatten_nil]
    simp [htext, detect, Text.cut?]
  | cons first rest =>
    simp only [List.head?_cons, Option.mem_some_iff, exists_eq_left']
    by_cases hterm : first.isTerminated
    · exact detect_eq_iff hlines hterm
    · obtain rfl := (hlines ▸ Text.isCut_lines t).tail_eq_nil hterm
      rw [detect_of_not_isTerminated hlines hterm]
      exact iff_of_false (by simp) fun hends => hterm hends.isTerminated

end LineEnding

/-- All terminated lines of a text end in one way, and in a newline alone if there are none. -/
structure Text.HasEnding (t : Text) (ending : LineEnding) : Prop where
  ends : ∀ line ∈ t.lines, line.isTerminated → ending.Ends line
  eq_lf : (∀ line ∈ t.lines, ¬line.isTerminated) → ending = .lf

/-- Where all lines end in one way, that is the ending of the text. -/
theorem Text.HasEnding.detect_eq (h : t.HasEnding ending) : LineEnding.detect t = ending := by
  cases hlines : t.lines with
  | nil =>
    have htext : t = [] := by rw [← Text.flatten_lines t, hlines, List.flatten_nil]
    rw [h.eq_lf (by simp [hlines]), htext]
    rfl
  | cons first rest =>
    by_cases hterm : first.isTerminated
    · exact (LineEnding.detect_eq_iff hlines hterm).2 (h.ends first (by simp [hlines]) hterm)
    · obtain rfl := (hlines ▸ isCut_lines t).tail_eq_nil hterm
      rw [h.eq_lf (by simpa [hlines] using hterm),
        LineEnding.detect_of_not_isTerminated hlines hterm]

/-! ## Other endings -/

/-- The text with the terminator of every terminated line replaced. -/
def Text.withEnding (ending : LineEnding) (t : Text) : Text :=
  (t.lines.map (Line.withEnding ending)).flatten

namespace Line

/-- A carriage return and a newline in place of its terminator leave a line its body. -/
theorem body_withEnding_crlf (line : Line) : (line.withEnding .crlf).body = line.body := by
  rw [withEnding]
  split
  · exact (body_append_chars line.body .crlf).2 (.inl rfl)
  · rfl

theorem isTerminated_withEnding (h : line.isTerminated) :
    (line.withEnding ending).isTerminated := by
  rw [withEnding_of_isTerminated h]
  exact isTerminated_append_chars line.body ending

theorem IsProper.withEnding (h : IsProper line) (ending : LineEnding) :
    IsProper (line.withEnding ending) := by
  rw [Line.withEnding]
  split
  next hterm => exact isProper_append_chars (h.newline_not_mem_body hterm) ending
  next => exact h

end Line

/-- The lines of a text with other endings are its lines with other endings. -/
theorem Text.lines_withEnding (ending : LineEnding) (t : Text) :
    (t.withEnding ending).lines = t.lines.map (Line.withEnding ending) := by
  have hcut := isCut_lines t
  refine lines_flatten ⟨?_, ?_⟩
  · intro line hline
    obtain ⟨old, hold, rfl⟩ := List.mem_map.1 hline
    exact (hcut.isProper old hold).withEnding ending
  · intro line hline
    rw [← List.map_dropLast] at hline
    obtain ⟨old, hold, rfl⟩ := List.mem_map.1 hline
    exact Line.isTerminated_withEnding (hcut.isTerminated old hold)

/-! ## Cutting and putting together -/

/-- Cutting a text into lines and putting lines together undo each other. No line of a text is
empty, a newline stands at the end of a line only, and every line but the last has one; the first
line tells the ending of the text. Lines like these are what their text is cut into. -/
theorem Text.lines_inverse_flatten :
    (∀ t : Text, t.lines.flatten = t ∧
        (∀ line ∈ t.lines, line ≠ [] ∧ '\n' ∉ line.dropLast) ∧
        (∀ line ∈ t.lines.dropLast, line.isTerminated) ∧
        (LineEnding.detect t = .crlf ↔ ∃ first ∈ t.lines.head?, ['\r', '\n'] <:+ first)) ∧
      ∀ lines : List Line, (∀ line ∈ lines, line ≠ [] ∧ '\n' ∉ line.dropLast) →
        (∀ line ∈ lines.dropLast, line.isTerminated) → Text.lines lines.flatten = lines := by
  constructor
  · intro t
    have hcut := isCut_lines t
    refine ⟨flatten_lines t, fun line hline => ?_, hcut.isTerminated, LineEnding.detect_eq_crlf_iff⟩
    obtain ⟨hne, hnewline⟩ := hcut.isProper line hline
    exact ⟨hne, hnewline⟩
  · intro lines hproper hterm
    refine lines_flatten ⟨fun line hline => ?_, hterm⟩
    obtain ⟨hne, hnewline⟩ := hproper line hline
    exact ⟨hne, hnewline⟩

/-- A carriage return and a newline, a newline alone, and a carriage return that ends no line. -/
theorem Text.lines_inverse_flatten_of_three :
    let lines : List Line := [['a', '\r', '\n'], ['\n'], ['b', '\r']]
    ((∀ line ∈ lines, line ≠ [] ∧ '\n' ∉ line.dropLast) ∧
        ∀ line ∈ lines.dropLast, line.isTerminated) ∧
      Text.lines lines.flatten = lines := by
  intro lines
  have hproper : ∀ line ∈ lines, line ≠ [] ∧ '\n' ∉ line.dropLast := by decide
  have hterm : ∀ line ∈ lines.dropLast, line.isTerminated := by decide
  exact ⟨⟨hproper, hterm⟩, lines_inverse_flatten.2 lines hproper hterm⟩

end Graft
