import Graft.Proofs.Text.Pieces
import Graft.Text.Quoted

/-!
# Quoted texts are told apart

A quoted text says what the text is, character by character: no escape starts like the escape of
another character. It also stands on one line, as escapes are made of printable characters.

* `Text.IsEscape.eq_of_append_eq`: the first escape of a text stands for one character only.
* `Text.quoted_inj`: texts that are quoted alike are equal.
* `Text.isPrintable_of_mem_quoted`: a quoted text has printable characters only.
-/

namespace Graft.Text

variable {c d : Char} {e f s t : Text} {m n : Nat}

/-! ## Hexadecimal numbers -/

/-- Every hexadecimal digit is the digit of a number below sixteen. -/
theorem exists_of_mem_toDigits (h : c ∈ Nat.toDigits 16 n) :
    ∃ digit < 16, c = Nat.digitChar digit := by
  induction n using Nat.strongRecOn with
  | ind n ih =>
    rw [Nat.toDigits_eq_if (by decide)] at h
    split at h
    next hlt => exact ⟨n, hlt, List.mem_singleton.1 h⟩
    next hle =>
      rcases List.mem_append.1 h with hfront | hlast
      · exact ih (n / 16) (by omega) hfront
      · exact ⟨n % 16, by omega, List.mem_singleton.1 hlast⟩

theorem isPrintable_of_mem_toDigits (h : c ∈ Nat.toDigits 16 n) : isPrintable c := by
  obtain ⟨digit, hlt, rfl⟩ := exists_of_mem_toDigits h
  have hall : ∀ digit ∈ List.range 16, isPrintable (Nat.digitChar digit) := by decide
  exact hall digit (List.mem_range.2 hlt)

theorem brace_not_mem_toDigits : '\x7d' ∉ Nat.toDigits 16 n := by
  intro hmem
  obtain ⟨digit, hlt, heq⟩ := exists_of_mem_toDigits hmem
  have hall : ∀ digit ∈ List.range 16, '\x7d' ≠ Nat.digitChar digit := by decide
  exact hall digit (List.mem_range.2 hlt) heq

/-- The numbers below sixteen have digits of their own. -/
theorem digitChar_inj (hm : m < 16) (hn : n < 16) (h : Nat.digitChar m = Nat.digitChar n) :
    m = n := by
  have hall : ∀ a ∈ List.range 16, ∀ b ∈ List.range 16,
      Nat.digitChar a = Nat.digitChar b → a = b := by decide
  exact hall m (List.mem_range.2 hm) n (List.mem_range.2 hn) h

/-- The digits of a number tell the number. -/
theorem toDigits_inj (h : Nat.toDigits 16 m = Nat.toDigits 16 n) : m = n := by
  induction m using Nat.strongRecOn generalizing n with
  | ind m ih =>
    rw [Nat.toDigits_eq_if (b := 16) (n := m) (by decide),
      Nat.toDigits_eq_if (b := 16) (n := n) (by decide)] at h
    -- one digit on either side, or two and more, as digits cannot stand for nothing
    split at h
    next hm =>
      split at h
      next hn => exact digitChar_inj hm hn (List.cons.inj h).1
      next hn => exact absurd (congrArg List.length h) (by simp)
    next hm =>
      split at h
      next hn => exact absurd (congrArg List.length h) (by simp)
      next hn =>
        obtain ⟨hfront, hlast⟩ := List.append_inj' h rfl
        have hquotient : m / 16 = n / 16 := ih (m / 16) (by omega) hfront
        have hremainder : m % 16 = n % 16 :=
          digitChar_inj (by omega) (by omega) (List.cons.inj hlast).1
        omega

/-! ## Escapes -/

/-- The characters with a short escape, each with what stands behind the backslash. -/
def shortEscapes : List (Char × Char) :=
  [('\x00', '0'), ('\t', 't'), ('\r', 'r'), ('\n', 'n'), ('"', '"'), ('\\', '\\')]

/-- What may stand for a character inside quotes. -/
inductive IsEscape : Char → Text → Prop
  /-- A backslash and a character. -/
  | short {c name : Char} (h : (c, name) ∈ shortEscapes) : IsEscape c ['\\', name]
  /-- The character itself. -/
  | plain {c : Char} (hslash : c ≠ '\\') (hprintable : isPrintable c) : IsEscape c [c]
  /-- The code point. -/
  | codePoint (c : Char) : IsEscape c (escapeCodePoint c)

theorem isEscape_escapeChar (c : Char) : IsEscape c (escapeChar c) := by
  by_cases hshort : c ∈ shortEscapes.map Prod.fst
  · simp only [shortEscapes, List.map_cons, List.map_nil, List.mem_cons, List.not_mem_nil,
      or_false] at hshort
    rcases hshort with rfl | rfl | rfl | rfl | rfl | rfl
    all_goals exact .short (by decide)
  · have hother : escapeChar c = if isPrintable c then [c] else escapeCodePoint c := by
      simp_all [shortEscapes, escapeChar]
    rw [hother]
    split
    next hprintable =>
      refine .plain ?_ hprintable
      rintro rfl
      exact hshort (by decide)
    next => exact .codePoint c

namespace IsEscape

theorem ne_nil (h : IsEscape c e) : e ≠ [] := by
  cases h with
  | short | plain => simp
  | codePoint => simp [escapeCodePoint]

/-- The first escape of a text stands for one character only. -/
theorem eq_of_append_eq (hc : IsEscape c e) (hd : IsEscape d f) (h : e ++ s = f ++ t) : c = d := by
  have hnames : ∀ p ∈ shortEscapes, p.2 ≠ 'u' ∧ ∀ q ∈ shortEscapes, p.2 = q.2 → p.1 = q.1 := by
    decide
  cases hc with
  | short hc =>
    cases hd with
    | short hd =>
      obtain ⟨-, hname⟩ : '\\' = '\\' ∧ _ := List.cons.inj h
      exact (hnames _ hc).2 _ hd (List.cons.inj hname).1
    | plain hslash => exact absurd (List.cons.inj h).1.symm hslash
    | codePoint =>
      obtain ⟨-, hname⟩ := List.cons.inj h
      exact absurd (List.cons.inj hname).1 (hnames _ hc).1
  | plain hslash =>
    cases hd with
    | short hd => exact absurd (List.cons.inj h).1 hslash
    | plain => exact (List.cons.inj h).1
    | codePoint => exact absurd (List.cons.inj h).1 hslash
  | codePoint =>
    cases hd with
    | short hd =>
      obtain ⟨-, hname⟩ := List.cons.inj h
      exact absurd (List.cons.inj hname).1.symm (hnames _ hd).1
    | plain hslash => exact absurd (List.cons.inj h).1.symm hslash
    | codePoint =>
      -- the digits end at the first closing brace
      have hbrace : Nat.toDigits 16 c.toNat ++ '\x7d' :: s =
          Nat.toDigits 16 d.toNat ++ '\x7d' :: t := by simpa [escapeCodePoint] using h
      obtain ⟨hdigits, -⟩ := append_cons_inj hbrace brace_not_mem_toDigits brace_not_mem_toDigits
      exact Char.toNat_inj.1 (toDigits_inj hdigits)

/-- Escapes are made of printable characters. -/
theorem isPrintable (h : IsEscape c e) (hd : d ∈ e) : Text.isPrintable d := by
  have hall : (shortEscapes.map Prod.snd ++ ['\\', 'u', '\x7b', '\x7d']).all
      Text.isPrintable := by decide
  have hascii := List.all_eq_true.1 hall
  cases h with
  | short h =>
    simp only [List.mem_cons, List.not_mem_nil, or_false] at hd
    rcases hd with rfl | rfl
    · exact hascii '\\' (by decide)
    · exact hascii d (List.mem_append_left _ (List.mem_map_of_mem h))
  | plain _ hprintable => rwa [List.mem_singleton.1 hd]
  | codePoint =>
    simp only [escapeCodePoint, List.mem_append, List.mem_cons, List.not_mem_nil, or_false] at hd
    rcases hd with ((rfl | rfl | rfl) | hdigits) | rfl
    · exact hascii '\\' (by decide)
    · exact hascii 'u' (by decide)
    · exact hascii '\x7b' (by decide)
    · exact isPrintable_of_mem_toDigits hdigits
    · exact hascii '\x7d' (by decide)

end IsEscape

/-! ## Quoted texts -/

/-- An escaped text tells the text. -/
theorem escape_inj (h : escape s = escape t) : s = t := by
  induction s generalizing t with
  | nil =>
    cases t with
    | nil => rfl
    | cons d t =>
      have hnil : escapeChar d = [] := (List.append_eq_nil_iff.1 h.symm).1
      exact absurd hnil (isEscape_escapeChar d).ne_nil
  | cons c s ih =>
    cases t with
    | nil =>
      have hnil : escapeChar c = [] := (List.append_eq_nil_iff.1 h).1
      exact absurd hnil (isEscape_escapeChar c).ne_nil
    | cons d t =>
      have hsplit : escapeChar c ++ escape s = escapeChar d ++ escape t := h
      obtain rfl := (isEscape_escapeChar c).eq_of_append_eq (isEscape_escapeChar d) hsplit
      rw [ih (List.append_cancel_left hsplit)]

theorem toList_quoted (t : Text) : t.quoted.toList = '"' :: escape t ++ ['"'] := by
  rw [quoted, String.toList_ofList]

/-- Texts that are quoted alike are equal. -/
theorem quoted_inj : s.quoted = t.quoted ↔ s = t := by
  constructor
  · intro h
    have hchars := congrArg String.toList h
    rw [toList_quoted, toList_quoted] at hchars
    exact escape_inj (List.append_cancel_right (List.cons.inj hchars).2)
  · rintro rfl
    rfl

/-- A quoted text has printable characters only. -/
theorem isPrintable_of_mem_quoted (h : c ∈ t.quoted.toList) : isPrintable c := by
  have hquote : isPrintable '"' := by decide
  rw [toList_quoted] at h
  simp only [List.cons_append, List.mem_cons, List.mem_append, List.not_mem_nil, or_false] at h
  rcases h with rfl | hescape | rfl
  · exact hquote
  · obtain ⟨d, -, hd⟩ := List.mem_flatMap.1 hescape
    exact (isEscape_escapeChar d).isPrintable hd
  · exact hquote

end Graft.Text
