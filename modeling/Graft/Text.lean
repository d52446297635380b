/-!
# Text

A text is the list of its characters. This module holds what every other module asks of a text:
white space at its ends, search for a piece of text, and cutting at a separator.

* `Text.split_intercalate`: pieces that are put together with a separator between them are split
  there again.
-/

namespace Graft

/-- A text is the list of its characters, in order. -/
abbrev Text := List Char

namespace Text

/-- The characters of the Unicode property `White_Space`. -/
def isSpace (c : Char) : Bool :=
  let n := c.toNat
  (0x09 ≤ n && n ≤ 0x0D) || n = 0x20 || n = 0x85 || n = 0xA0 || n = 0x1680
    || (0x2000 ≤ n && n ≤ 0x200A) || n = 0x2028 || n = 0x2029 || n = 0x202F || n = 0x205F
    || n = 0x3000

/-- The text without white space at its start. -/
def trimStart (t : Text) : Text :=
  t.dropWhile isSpace

/-- The text without white space at its end. -/
def trimEnd (t : Text) : Text :=
  (t.reverse.dropWhile isSpace).reverse

/-- The text without white space at either end. -/
def trim (t : Text) : Text :=
  trimEnd (trimStart t)

/-- A blank text is empty or holds white space only. -/
def isBlank (t : Text) : Bool :=
  t.all isSpace

/-- Whether `piece` stands somewhere in the text, as a run of consecutive characters. -/
def occursIn (piece : Text) : Text → Bool
  | [] => piece.isEmpty
  | c :: t => piece.isPrefixOf (c :: t) || occursIn piece t

/-- The text before the first `sep` and the text after it, when `sep` occurs. -/
def cut? (sep : Char) : Text → Option (Text × Text)
  | [] => none
  | c :: t =>
    if c = sep then some ([], t)
    else (cut? sep t).map fun (before, after) => (c :: before, after)

/-- The pieces of the text between the occurrences of `sep`; there is one more than occurrences. -/
def split (sep : Char) : Text → List Text
  | [] => [[]]
  | c :: t =>
    if c = sep then [] :: split sep t
    else
      match split sep t with
      | [] => [[c]]
      | piece :: pieces => (c :: piece) :: pieces

/-- A split is the split of a list at one of its elements. -/
theorem split_eq_splitOn (sep : Char) (t : Text) : split sep t = t.splitOn sep := by
  induction t with
  | nil => rfl
  | cons c t ih =>
    rw [split, List.splitOn_cons_eq_if_modifyHead, ih]
    by_cases h : c = sep
    · simp [h]
    · cases hpieces : t.splitOn sep with
      | nil => exact absurd hpieces (List.splitOn_ne_nil sep t)
      | cons piece pieces => simp [h]

/-- Pieces without the separator are split where it was put between them. -/
theorem split_intercalate {sep : Char} {pieces : List Text} (h : ∀ piece ∈ pieces, sep ∉ piece)
    (hne : pieces ≠ []) : split sep ([sep].intercalate pieces) = pieces := by
  rw [split_eq_splitOn, List.splitOn_intercalate sep h hne]

/-- A character between and in pieces is the separator or stands in one of them. -/
theorem mem_intercalate {sep c : Char} {pieces : List Text} (h : c ∈ [sep].intercalate pieces) :
    c = sep ∨ ∃ piece ∈ pieces, c ∈ piece := by
  induction pieces with
  | nil => simp at h
  | cons piece rest ih =>
    cases rest with
    | nil => exact .inr ⟨piece, by simpa using h⟩
    | cons next rest =>
      rw [List.intercalate_cons_cons, List.mem_append, List.mem_append] at h
      rcases h with (h | h) | h
      · exact .inr ⟨piece, by simp [h]⟩
      · exact .inl (List.mem_singleton.1 h)
      · rcases ih h with rfl | ⟨other, hother, hc⟩
        · exact .inl rfl
        · exact .inr ⟨other, List.mem_cons_of_mem _ hother, hc⟩

end Text

end Graft
