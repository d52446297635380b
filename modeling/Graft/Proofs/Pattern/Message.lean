import Graft.Pattern.Diagnosis
import Graft.Proofs.Condition.Description
import Graft.Proofs.Text.Lines
import Mathlib.Logic.Function.Defs

/-!
# Messages of a diagnosis

* `Text.map_body_lines_intercalate`: texts with a newline between them are lines again, as long as
  they hold no line ends themselves.
* `Diagnosis.isPrintable_of_mem_report`: what a report says is printable, whatever a condition looks
  for and whatever a file holds.
* `Pattern.describe_injective_and_lines_message`: conditions that are described alike are equal, and
  a message has a line for each condition and one for the closest line.
-/

namespace Graft

open Text

/-- Texts with a newline between them are the lines of the text that they make up, as long as they
hold no line ends themselves. -/
theorem Text.map_body_lines_intercalate {pieces : List Text}
    (h : ∀ piece ∈ pieces, piece ≠ [] ∧ '\n' ∉ piece ∧ '\r' ∉ piece) :
    (Text.lines (['\n'].intercalate pieces)).map Line.body = pieces := by
  induction pieces with
  | nil => rfl
  | cons piece rest ih =>
    obtain ⟨hne, hnewline, hreturn⟩ := h piece List.mem_cons_self
    cases rest with
    | nil =>
      have hproper : Line.IsProper piece :=
        ⟨hne, fun hmem => hnewline ((List.dropLast_sublist piece).subset hmem)⟩
      have hterm : ¬Line.isTerminated piece := by
        rw [Line.isTerminated, decide_eq_true_eq]
        exact fun hlast => hnewline (List.mem_of_getLast? hlast)
      rw [List.intercalate_singleton, lines_of_isProper hproper, List.map_singleton, Line.body,
        if_neg hterm]
    | cons next rest =>
      have hproper := Line.isProper_append_newline hnewline
      have hterm : Line.isTerminated (piece ++ ['\n']) := Line.isTerminated_iff.2 ⟨piece, rfl⟩
      have hlast : piece.getLast? ≠ some '\r' := fun hlast => hreturn (List.mem_of_getLast? hlast)
      rw [List.intercalate_cons_cons, lines_append_of_isTerminated hproper hterm, List.map_cons,
        Line.body_append_newline, if_neg hlast,
        ih fun other hother => h other (List.mem_cons_of_mem _ hother)]

namespace Diagnosis

variable {c : Char} {n : Nat} {miss : NearMiss} {d : Diagnosis} {line : String}

theorem isPrintable_of_mem_toString (h : c ∈ (toString n).toList) : isPrintable c :=
  isPrintable_of_isDigit ((isDigits_repr n).2 c h)

theorem isPrintable_of_mem_describeHits (h : c ∈ (describeHits n).toList) : isPrintable c := by
  have hwords : ∀ words ∈ ["never holds", "holds at 1 position", "holds at ", " positions"],
      words.toList.all isPrintable := by decide
  unfold describeHits at h
  split at h
  · exact List.all_eq_true.1 (hwords "never holds" (by decide)) c h
  · exact List.all_eq_true.1 (hwords "holds at 1 position" (by decide)) c h
  · simp only [String.toList_append, List.mem_append] at h
    rcases h with (h | h) | h
    · exact List.all_eq_true.1 (hwords "holds at " (by decide)) c h
    · exact isPrintable_of_mem_toString h
    · exact List.all_eq_true.1 (hwords " positions" (by decide)) c h

theorem isPrintable_of_mem_describeMiss (h : c ∈ (describeMiss miss).toList) : isPrintable c := by
  have hwords : ∀ words ∈ ["closest line to ", ": line ", " ", " (", "% similar)"],
      words.toList.all isPrintable := by decide
  unfold describeMiss at h
  simp only [String.toList_append, List.mem_append] at h
  rcases h with (((h | h) | ((h | h) | h)) | h) | ((h | h) | h)
  · exact List.all_eq_true.1 (hwords "closest line to " (by decide)) c h
  · exact LineTest.isPrintable_of_mem_describe h
  · exact List.all_eq_true.1 (hwords ": line " (by decide)) c h
  · exact isPrintable_of_mem_toString h
  · exact List.all_eq_true.1 (hwords " " (by decide)) c h
  · exact isPrintable_of_mem_quoted h
  · exact List.all_eq_true.1 (hwords " (" (by decide)) c h
  · exact isPrintable_of_mem_toString h
  · exact List.all_eq_true.1 (hwords "% similar)" (by decide)) c h

/-- Every line of a report says something, and all of it is printable. -/
theorem isPrintable_of_mem_report (h : line ∈ d.report) :
    line.toList ≠ [] ∧ ∀ c ∈ line.toList, isPrintable c := by
  have hwords : ∀ words ∈ ["anchor pattern has no conditions", ": "],
      words.toList ≠ [] ∧ words.toList.all isPrintable := by decide
  rw [report] at h
  split at h
  · rw [List.mem_singleton.1 h]
    exact (hwords "anchor pattern has no conditions" (by decide)).imp_right List.all_eq_true.1
  · rcases List.mem_append.1 h with h | h
    · obtain ⟨⟨condition, n⟩, -, rfl⟩ := List.mem_map.1 h
      simp only [String.toList_append, List.mem_append]
      refine ⟨by simp, fun c hc => ?_⟩
      rcases hc with (hc | hc) | hc
      · exact Condition.isPrintable_of_mem_describe hc
      · exact List.all_eq_true.1 (hwords ": " (by decide)).2 c hc
      · exact isPrintable_of_mem_describeHits hc
    · obtain ⟨miss, -, rfl⟩ := List.mem_map.1 h
      refine ⟨?_, fun c hc => isPrintable_of_mem_describeMiss hc⟩
      unfold describeMiss
      simp

/-- A message is cut into the lines of its report. -/
theorem map_body_lines_message (d : Diagnosis) :
    (Text.lines d.message.toList).map Line.body = d.report.map String.toList := by
  have hnewline : isPrintable '\n' = false := by decide
  have hreturn : isPrintable '\r' = false := by decide
  rw [message, String.toList_intercalate]
  refine map_body_lines_intercalate fun piece hpiece => ?_
  obtain ⟨line, hline, rfl⟩ := List.mem_map.1 hpiece
  obtain ⟨hne, hprintable⟩ := isPrintable_of_mem_report hline
  refine ⟨hne, fun hmem => ?_, fun hmem => ?_⟩
  · exact absurd (hprintable _ hmem) (by simp [hnewline])
  · exact absurd (hprintable _ hmem) (by simp [hreturn])

end Diagnosis

namespace Pattern

/-- Conditions that are described alike are equal, and are described on one line. The message of a
diagnosis has a line for each condition of the pattern, in order, and one for the closest line if
there is one, whatever characters the conditions and the file hold. -/
theorem describe_injective_and_lines_message :
    Function.Injective Condition.describe ∧ (∀ c : Condition, '\n' ∉ c.describe.toList) ∧
      ∀ (pattern : Pattern) (lines : List Line), pattern.conditions ≠ [] →
        let d := pattern.diagnose lines
        (Text.lines d.message.toList).map Line.body =
            pattern.conditions.map (fun c =>
              (c.describe ++ ": " ++ Diagnosis.describeHits (c.hits lines)).toList) ++
            d.closest.toList.map (fun miss => (Diagnosis.describeMiss miss).toList) ∧
          (Text.lines d.message.toList).length =
            pattern.conditions.length + d.closest.toList.length := by
  refine ⟨fun c d => Condition.describe_inj, fun c hmem => ?_, fun pattern lines hne => ?_⟩
  · have hnewline : isPrintable '\n' = false := by decide
    exact absurd (Condition.isPrintable_of_mem_describe hmem) (by simp [hnewline])
  · intro d
    have hhits : d.hits = pattern.conditions.map fun c => (c, c.hits lines) := rfl
    have hreport : d.report.map String.toList =
        pattern.conditions.map (fun c =>
          (c.describe ++ ": " ++ Diagnosis.describeHits (c.hits lines)).toList) ++
        d.closest.toList.map (fun miss => (Diagnosis.describeMiss miss).toList) := by
      rw [Diagnosis.report, if_neg (by simpa [hhits] using hne), hhits]
      simp only [List.map_append, List.map_map]
      rfl
    have hlines := d.map_body_lines_message.trans hreport
    refine ⟨hlines, ?_⟩
    simpa using congrArg List.length hlines

/-- A quote, a backslash, a newline and a combining accent to look for, and a line that comes close
with a carriage return in its middle. -/
theorem lines_message_of_escapes :
    let c : Condition := ⟨0, .equals ['"', '\\', '\n', '\u0301', 'x']⟩
    let pattern : Pattern := ⟨[⟨-1, .blank⟩, c]⟩
    let lines : List Line := [['"', '\\', '\r', '\u0301', 'x', '\r', '\n']]
    let miss : NearMiss := ⟨c, 1, ['"', '\\', '\r', '\u0301', 'x'], ⟨1, 5⟩⟩
    let d := pattern.diagnose lines
    (pattern.conditions ≠ [] ∧ d.closest = some miss) ∧
      (Text.lines d.message.toList).map Line.body =
        ["line -1 is blank: never holds".toList,
          "line +0 equals \"\\\"\\\\\\n\\u\x7b301\x7dx\": never holds".toList,
          (Diagnosis.describeMiss miss).toList] := by
  intro c pattern lines miss d
  have hne : pattern.conditions ≠ [] := by simp [pattern]
  have hclosest : d.closest = some miss := by decide +kernel
  refine ⟨⟨hne, hclosest⟩, ?_⟩
  obtain ⟨hlines, -⟩ := describe_injective_and_lines_message.2.2 pattern lines hne
  have hconditions : pattern.conditions.map (fun c =>
      (c.describe ++ ": " ++ Diagnosis.describeHits (c.hits lines)).toList) =
      ["line -1 is blank: never holds".toList,
        "line +0 equals \"\\\"\\\\\\n\\u\x7b301\x7dx\": never holds".toList] := by
    decide +kernel
  rw [hlines, hconditions, hclosest]
  rfl

end Pattern

end Graft
