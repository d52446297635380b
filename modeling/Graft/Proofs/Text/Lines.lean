import Graft.Text.Line

/-!
# Cutting a text into lines

Which lists of lines a text can be cut into, and what becomes of the body of a line when its
terminator is replaced.

* `Text.lines_eq_iff`: the lines of a text are the one way to cut it.
* `Line.body_append_chars`: a line with another terminator keeps its body, unless the body ends in a
  carriage return and the new terminator is a newline alone.
-/

namespace Graft

namespace Line

variable {line : Line} {body : Text} {ending : LineEnding}

/-- A line that a text can be cut into: it is not empty, and a newline stands at its end only. -/
structure IsProper (line : Line) : Prop where
  ne_nil : line ≠ []
  newline_not_mem_dropLast : '\n' ∉ line.dropLast

theorem isTerminated_iff : isTerminated line ↔ ∃ body, line = body ++ ['\n'] := by
  rw [isTerminated, decide_eq_true_eq, List.getLast?_eq_some_iff]

/-- A line without a newline cannot run together with what follows, once it has its newline. -/
theorem isProper_append_newline (h : '\n' ∉ body) : IsProper (body ++ ['\n']) := by
  refine ⟨by simp, ?_⟩
  rw [List.dropLast_concat]
  exact h

theorem isTerminated_append_chars (body : Text) (ending : LineEnding) :
    isTerminated (body ++ ending.chars) := by
  cases ending <;> simp [isTerminated, LineEnding.chars]

theorem isProper_append_chars (h : '\n' ∉ body) (ending : LineEnding) :
    IsProper (body ++ ending.chars) := by
  cases ending with
  | lf => exact isProper_append_newline h
  | crlf =>
    have hcr : '\n' ∉ body ++ ['\r'] := by simpa using h
    have hchars : body ++ LineEnding.crlf.chars = body ++ ['\r'] ++ ['\n'] := by
      simp [LineEnding.chars]
    rw [hchars]
    exact isProper_append_newline hcr

/-- The body of a terminated line is the line without its newline and one carriage return. -/
theorem body_append_newline (body : Text) :
    Line.body (body ++ ['\n']) = if body.getLast? = some '\r' then body.dropLast else body := by
  simp [Line.body, isTerminated]

/-- A line that is not terminated has no newline at all. -/
theorem IsProper.newline_not_mem (h : IsProper line) (hterm : ¬line.isTerminated) :
    '\n' ∉ line := by
  rw [← List.dropLast_concat_getLast h.ne_nil, List.mem_append, List.mem_singleton]
  rintro (hmem | hlast)
  · exact h.newline_not_mem_dropLast hmem
  · refine hterm ?_
    rw [isTerminated, decide_eq_true_eq, List.getLast?_eq_some_getLast h.ne_nil, ← hlast]

theorem IsProper.newline_not_mem_body (h : IsProper line) (hterm : line.isTerminated) :
    '\n' ∉ line.body := by
  intro hmem
  refine h.newline_not_mem_dropLast ?_
  rw [Line.body, if_pos hterm] at hmem
  split at hmem
  · exact (List.dropLast_sublist _).subset hmem
  · exact hmem

/-- A line with another terminator keeps its body, unless the body ends in a carriage return and the
new terminator is a newline alone. -/
theorem body_append_chars (body : Text) (ending : LineEnding) :
    Line.body (body ++ ending.chars) = body ↔ ending = .crlf ∨ body.getLast? ≠ some '\r' := by
  cases ending with
  | crlf =>
    have hchars : body ++ LineEnding.crlf.chars = body ++ ['\r'] ++ ['\n'] := by
      simp [LineEnding.chars]
    rw [hchars, body_append_newline]
    simp
  | lf =>
    rw [LineEnding.chars, body_append_newline]
    by_cases hcr : body.getLast? = some '\r'
    · -- the carriage return counts as part of the terminator now
      have hne : body ≠ [] := by
        rintro rfl
        simp at hcr
      have hlength : body.dropLast.length ≠ body.length := by
        rw [List.length_dropLast]
        have := List.length_pos_iff.2 hne
        omega
      rw [if_pos hcr]
      constructor
      · intro heq
        exact absurd (congrArg List.length heq) hlength
      · rintro (hending | hnot)
        · cases hending
        · exact absurd hcr hnot
    · simp [hcr]

/-- Another terminator changes nothing about whether a line is blank. -/
theorem isBlank_append_chars (body : Text) (ending : LineEnding) :
    isBlank (body ++ ending.chars) = Text.isBlank body := by
  have hspace : Text.isSpace '\r' = true := by decide
  cases ending with
  | crlf =>
    rw [isBlank, (body_append_chars body .crlf).2 (.inl rfl)]
  | lf =>
    rw [isBlank, LineEnding.chars, body_append_newline]
    split
    next hcr =>
      obtain ⟨front, rfl⟩ := List.getLast?_eq_some_iff.1 hcr
      simp [Text.isBlank, hspace]
    next => rfl

theorem isTerminated_terminate (line : Line) (ending : LineEnding) :
    isTerminated (terminate ending line) := by
  rw [terminate]
  split
  next h => exact h
  next => exact isTerminated_append_chars line ending

theorem isProper_terminate (h : IsProper line) (ending : LineEnding) :
    IsProper (terminate ending line) := by
  rw [terminate]
  split
  next => exact h
  next hterm => exact isProper_append_chars (h.newline_not_mem hterm) ending

theorem withEnding_of_isTerminated (h : line.isTerminated) :
    line.withEnding ending = line.body ++ ending.chars := by
  rw [withEnding, if_pos h]

/-- A replaced terminator leaves no line empty. -/
theorem withEnding_ne_nil (h : line ≠ []) (ending : LineEnding) : line.withEnding ending ≠ [] := by
  rw [withEnding]
  split
  · cases ending <;> simp [LineEnding.chars]
  · exact h

/-- Terminated lines make up a text that ends in a newline. -/
theorem flatten_eq_nil_or_getLast? {lines : List Line}
    (h : ∀ line ∈ lines, isTerminated line) :
    lines.flatten = [] ∨ lines.flatten.getLast? = some '\n' := by
  rcases List.eq_nil_or_concat lines with rfl | ⟨front, last, rfl⟩
  · exact .inl rfl
  · right
    have hlast : last.getLast? = some '\n' := by simpa [isTerminated] using h last (by simp)
    rw [List.concat_eq_append, List.flatten_append, List.flatten_singleton, List.getLast?_append,
      hlast, Option.some_or]

end Line

/-- The lists of lines that a text can be cut into. -/
structure IsCut (lines : List Line) : Prop where
  isProper : ∀ line ∈ lines, line.IsProper
  isTerminated : ∀ line ∈ lines.dropLast, line.isTerminated

namespace IsCut

variable {front back lines : List Line} {line : Line}

theorem nil : IsCut [] :=
  ⟨by simp, by simp⟩

/-- Terminated lines do not run together with the lines after them. -/
theorem append (hproper : ∀ line ∈ front, line.IsProper) (hterm : ∀ line ∈ front, line.isTerminated)
    (hback : IsCut back) : IsCut (front ++ back) := by
  constructor
  · intro line hline
    exact (List.mem_append.1 hline).elim (hproper line) (hback.isProper line)
  · intro line hline
    by_cases hnil : back = []
    · rw [hnil, List.append_nil] at hline
      exact hterm line ((List.dropLast_sublist _).subset hline)
    · rw [List.dropLast_append_of_ne_nil hnil] at hline
      exact (List.mem_append.1 hline).elim (hterm line) (hback.isTerminated line)

theorem tail (h : IsCut (line :: lines)) : IsCut lines := by
  refine ⟨fun other hother => h.isProper other (List.mem_cons_of_mem _ hother), ?_⟩
  intro other hother
  cases lines with
  | nil => cases hother
  | cons next rest => exact h.isTerminated other (List.mem_cons_of_mem _ hother)

theorem drop (h : IsCut lines) (n : Nat) : IsCut (lines.drop n) := by
  induction n generalizing lines with
  | zero => exact h
  | succ n ih =>
    cases lines with
    | nil => exact h
    | cons line rest => exact ih h.tail

/-- A line that is not terminated is the last one. -/
theorem tail_eq_nil (h : IsCut (line :: lines)) (hterm : ¬line.isTerminated) : lines = [] := by
  refine Classical.byContradiction fun hne => hterm (h.isTerminated line ?_)
  rw [List.dropLast_cons_of_ne_nil hne]
  exact List.mem_cons_self

/-- All lines before a position that is not behind the last are terminated. -/
theorem isTerminated_of_mem_take (h : IsCut lines) {n : Nat} (hn : n < lines.length)
    (hline : line ∈ lines.take n) : line.isTerminated := by
  refine h.isTerminated line ?_
  rw [List.dropLast_eq_take]
  exact (List.take_prefix_take_left (by omega)).subset hline

end IsCut

namespace Text

variable {line : Line} {lines : List Line}

/-- A terminated line in front of a text is its first line. -/
theorem lines_append_of_isTerminated (hproper : line.IsProper) (hterm : line.isTerminated)
    (t : Text) : Text.lines (line ++ t) = line :: Text.lines t := by
  -- by induction on the body: no character before the newline ends the line
  obtain ⟨body, rfl⟩ := Line.isTerminated_iff.1 hterm
  have hbody : '\n' ∉ body := by
    have := hproper.newline_not_mem_dropLast
    rwa [List.dropLast_concat] at this
  clear hproper hterm
  induction body with
  | nil => simp [Text.lines]
  | cons c body ih =>
    rw [List.mem_cons, not_or] at hbody
    have hrest := ih hbody.2
    rw [List.cons_append, List.cons_append, Text.lines, if_neg (Ne.symm hbody.1), hrest]

/-- A text without a newline, except at its end, is one line. -/
theorem lines_of_isProper (hproper : line.IsProper) : Text.lines line = [line] := by
  by_cases hterm : line.isTerminated
  · simpa [Text.lines] using lines_append_of_isTerminated hproper hterm []
  · have hne := hproper.ne_nil
    have hline := hproper.newline_not_mem hterm
    clear hterm hproper
    induction line with
    | nil => exact absurd rfl hne
    | cons c rest ih =>
      rw [List.mem_cons, not_or] at hline
      rw [Text.lines, if_neg (Ne.symm hline.1)]
      cases rest with
      | nil => rfl
      | cons d rest => rw [ih (by simp) hline.2]

/-- Lines that a text can be cut into are the lines of the text that they make up. -/
theorem lines_flatten (h : IsCut lines) : Text.lines lines.flatten = lines := by
  induction lines with
  | nil => rfl
  | cons line rest ih =>
    have hproper := h.isProper line List.mem_cons_self
    cases rest with
    | nil => simpa using lines_of_isProper hproper
    | cons next rest =>
      have hterm := h.isTerminated line (by simp)
      rw [List.flatten_cons, lines_append_of_isTerminated hproper hterm, ih h.tail]

theorem isCut_lines (t : Text) : IsCut (Text.lines t) := by
  induction t with
  | nil => exact .nil
  | cons c t ih =>
    rw [Text.lines]
    split
    next hc =>
      subst hc
      have hproper : Line.IsProper ['\n'] := ⟨by simp, by simp⟩
      have hcut : IsCut ([['\n']] ++ Text.lines t) :=
        IsCut.append (by simpa using hproper) (by simp [Line.isTerminated]) ih
      exact hcut
    next hc =>
      split
      next => exact ⟨by simpa using ⟨by simp, by simp⟩, by simp⟩
      next line rest hlines =>
        -- the character goes in front of the first line, which stays proper and terminated
        rw [hlines] at ih
        obtain ⟨hproper, hterm⟩ := ih
        have hline := hproper line List.mem_cons_self
        constructor
        · intro other hother
          rcases List.mem_cons.1 hother with rfl | hother
          · refine ⟨by simp, ?_⟩
            rw [List.dropLast_cons_of_ne_nil hline.ne_nil, List.mem_cons, not_or]
            exact ⟨Ne.symm hc, hline.newline_not_mem_dropLast⟩
          · exact hproper other (List.mem_cons_of_mem _ hother)
        · intro other hother
          cases rest with
          | nil => cases hother
          | cons next rest =>
            rcases List.mem_cons.1 hother with rfl | hother
            · have := hterm line (by simp)
              rw [Line.isTerminated, decide_eq_true_eq] at this ⊢
              rw [List.getLast?_cons_of_ne_nil hline.ne_nil, this]
            · exact hterm other (List.mem_cons_of_mem _ hother)

/-- The lines of a text are the one way to cut it. -/
theorem lines_eq_iff {t : Text} : Text.lines t = lines ↔ IsCut lines ∧ lines.flatten = t := by
  constructor
  · rintro rfl
    exact ⟨isCut_lines t, flatten_lines t⟩
  · rintro ⟨hcut, rfl⟩
    exact lines_flatten hcut

/-- A text ends as its last line does. -/
theorem getLast?_of_lines {t : Text} (h : Text.lines t = lines ++ [line]) :
    t.getLast? = line.getLast? := by
  have hne : line ≠ [] := ne_nil_of_mem_lines (t := t) (by simp [h])
  rw [← flatten_lines t, h, List.flatten_append, List.flatten_singleton, List.getLast?_append,
    List.getLast?_eq_some_getLast hne, Option.some_or]

end Text

end Graft
