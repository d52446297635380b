import Graft.Condition
import Graft.Proofs.Text.Numeral
import Graft.Proofs.Text.Quoted

/-!
# Conditions in words

A condition in words says which condition it is. The words of a test come before the first quote,
the offset before the second space, and what stands in quotes is told by its escapes.

* `LineTest.describe_inj`, `Condition.describe_inj`: what is described alike is equal.
* `Condition.isPrintable_of_mem_describe`: the words are printable, whatever the condition looks
  for.
-/

namespace Graft

open Text

namespace LineTest

variable {t u : LineTest}

/-- The words of a test, before the text that it looks for. -/
def words : LineTest → String
  | equals _ => "equals "
  | equalsTrimmed _ => "equals (trimmed) "
  | contains _ => "contains "
  | startsWith _ => "starts with "
  | blank => "is blank"

theorem describe_eq (t : LineTest) :
    t.describe = t.words ++ (t.literal?.map Text.quoted).getD "" := by
  cases t <;> rfl

theorem ne_quote_and_isPrintable_of_mem_words {c : Char} (hc : c ∈ t.words.toList) :
    c ≠ '"' ∧ isPrintable c := by
  have hall : ∀ words ∈ ["equals ", "equals (trimmed) ", "contains ", "starts with ", "is blank"],
      words.toList.all fun c => c ≠ '"' && isPrintable c := by decide
  have hchar := List.all_eq_true.1 (hall t.words (by cases t <;> simp [words])) c hc
  simpa using hchar

theorem quote_not_mem_words (t : LineTest) : '"' ∉ t.words.toList := fun hquote =>
  (ne_quote_and_isPrintable_of_mem_words hquote).1 rfl

/-- No two kinds of tests have the same words. -/
theorem eq_of_words (hwords : t.words = u.words) (hliteral : t.literal? = u.literal?) : t = u := by
  cases t <;> cases u <;> simp_all [words, literal?]

/-- Tests that are described alike are equal. -/
theorem describe_inj (h : t.describe = u.describe) : t = u := by
  rw [describe_eq, describe_eq] at h
  have hchars := congrArg String.toList h
  cases ht : t.literal? with
  | none =>
    cases hu : u.literal? with
    | none =>
      refine eq_of_words ?_ (ht.trans hu.symm)
      simpa [ht, hu] using h
    | some other =>
      -- only one of them has a quote
      have hquote : '"' ∈ t.words.toList := by
        have hwords : t.words.toList = u.words.toList ++ other.quoted.toList := by
          simpa [ht, hu] using hchars
        simp [hwords, toList_quoted]
      exact absurd hquote t.quote_not_mem_words
  | some literal =>
    cases hu : u.literal? with
    | none =>
      have hquote : '"' ∈ u.words.toList := by
        have hwords : t.words.toList ++ literal.quoted.toList = u.words.toList := by
          simpa [ht, hu] using hchars
        simp [← hwords, toList_quoted]
      exact absurd hquote u.quote_not_mem_words
    | some other =>
      have hsplit : t.words.toList ++ '"' :: (escape literal ++ ['"']) =
          u.words.toList ++ '"' :: (escape other ++ ['"']) := by
        simpa [ht, hu, toList_quoted] using hchars
      obtain ⟨hwords, hescape⟩ :=
        append_cons_inj hsplit t.quote_not_mem_words u.quote_not_mem_words
      have hquoted : literal.quoted = other.quoted := by
        rw [← String.toList_inj, toList_quoted, toList_quoted]
        exact congrArg ('"' :: ·) hescape
      exact eq_of_words (String.toList_inj.1 hwords) (by rw [ht, hu, quoted_inj.1 hquoted])

/-- A test in words is printable. -/
theorem isPrintable_of_mem_describe {c : Char} (hc : c ∈ t.describe.toList) : isPrintable c := by
  rw [describe_eq, String.toList_append, List.mem_append] at hc
  rcases hc with hc | hc
  · exact (ne_quote_and_isPrintable_of_mem_words hc).2
  · cases ht : t.literal? with
    | none => simp [ht] at hc
    | some literal =>
      rw [ht] at hc
      exact isPrintable_of_mem_quoted hc

end LineTest

namespace Condition

variable {c d : Condition}

/-- A written offset is a numeral, with a sign always. -/
theorem isNumeral_signedOffset (c : Condition) :
    IsNumeral c.signedOffset.toList c.offset.toInt := by
  rw [signedOffset]
  split
  next => exact isNumeral_toString c.offset.toInt
  next hsign =>
    have hnonneg : 0 ≤ c.offset.toInt := Int.not_lt.1 hsign
    have hnumeral : IsNumeral ('+' :: c.offset.toInt.toNat.repr.toList) c.offset.toInt := by
      have := IsNumeral.plus (isDigits_repr c.offset.toInt.toNat)
      rwa [decimal_repr, Int.toNat_of_nonneg hnonneg] at this
    rwa [Int.toString_eq_repr, Int.repr_eq_if, if_pos hnonneg, String.toList_append]

theorem toList_describe (c : Condition) : c.describe.toList =
    "line ".toList ++ (c.signedOffset.toList ++ ' ' :: c.test.describe.toList) := by
  simp [describe]

/-- Conditions that are described alike are equal. -/
theorem describe_inj (h : c.describe = d.describe) : c = d := by
  have hchars := congrArg String.toList h
  rw [toList_describe, toList_describe] at hchars
  -- there is no space in a numeral, so that the test begins after the next one
  have hspace : ∀ c : Condition, ' ' ∉ c.signedOffset.toList := by
    intro c hmem
    have := c.isNumeral_signedOffset.isSpace_eq_false hmem
    exact absurd this (by decide)
  obtain ⟨hoffset, htest⟩ :=
    append_cons_inj (List.append_cancel_left hchars) (hspace c) (hspace d)
  have hread := readInt?_eq_some_iff.2 c.isNumeral_signedOffset
  rw [hoffset, readInt?_eq_some_iff.2 d.isNumeral_signedOffset] at hread
  have hoffsets : c.offset = d.offset := Int64.toInt_inj.1 (Option.some.inj hread).symm
  have htests : c.test = d.test := LineTest.describe_inj (String.toList_inj.1 htest)
  calc
    c = ⟨c.offset, c.test⟩ := rfl
    _ = ⟨d.offset, d.test⟩ := by rw [hoffsets, htests]
    _ = d := rfl

/-- A condition in words is printable. -/
theorem isPrintable_of_mem_describe {ch : Char} (hch : ch ∈ c.describe.toList) :
    isPrintable ch := by
  rw [toList_describe, List.mem_append, List.mem_append, List.mem_cons] at hch
  rcases hch with hline | hoffset | rfl | htest
  · have hall : "line ".toList.all isPrintable := by decide
    exact List.all_eq_true.1 hall ch hline
  · exact c.isNumeral_signedOffset.isPrintable hoffset
  · decide
  · exact LineTest.isPrintable_of_mem_describe htest

end Condition

end Graft
