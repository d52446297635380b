import Graft.Condition.Spec
import Mathlib.Data.List.Induction
import Mathlib.Data.Nat.Digits.Defs

/-!
# Numerals

Which texts stand for integers, and for which.

* `Text.IsNumeral`: the texts that stand for an integer.
* `Text.readInt?_eq_some_iff`, `Text.readInt64?_eq_some_iff`: these texts, and no others, are read.
* `Text.isNumeral_toString`: an integer is written as a numeral of its own.
-/

namespace Graft.Text

variable {t digits : Text} {n : Nat} {i : Int}

/-- One or more decimal digits. -/
def IsDigits (t : Text) : Prop :=
  t ≠ [] ∧ ∀ c ∈ t, c.isDigit

/-- The number that decimal digits stand for, the last digit being the lowest. -/
def decimal (digits : Text) : Nat :=
  Nat.ofDigits 10 (digits.reverse.map fun c => c.toNat - '0'.toNat)

/-- The texts that stand for an integer: decimal digits, which a sign may stand before. -/
inductive IsNumeral : Text → Int → Prop
  /-- Digits without a sign. -/
  | unsigned {digits : Text} (h : IsDigits digits) : IsNumeral digits (decimal digits)
  /-- Digits behind a plus sign. -/
  | plus {digits : Text} (h : IsDigits digits) : IsNumeral ('+' :: digits) (decimal digits)
  /-- Digits behind a minus sign. -/
  | minus {digits : Text} (h : IsDigits digits) : IsNumeral ('-' :: digits) (-decimal digits)

/-- Digits come to the same number from the left as from the right. -/
theorem ofDigitChars_eq_decimal (digits : Text) :
    Nat.ofDigitChars 10 digits 0 = decimal digits := by
  induction digits using List.reverseRecOn with
  | nil => rfl
  | append_singleton digits c ih =>
    rw [Nat.ofDigitChars_append, ih, Nat.ofDigitChars_cons, Nat.ofDigitChars_nil, decimal, decimal,
      List.reverse_append, List.reverse_singleton, List.singleton_append, List.map_cons,
      Nat.ofDigits_cons, Nat.add_comm]

theorem readNat?_eq_some_iff : readNat? t = some n ↔ IsDigits t ∧ decimal t = n := by
  have hvalue : t.foldl (fun n c => 10 * n + (c.toNat - '0'.toNat)) 0 = decimal t :=
    ofDigitChars_eq_decimal t
  rw [readNat?, hvalue, IsDigits]
  cases t with
  | nil => simp
  | cons c t => simp

/-- A sign is no digit. -/
theorem not_isDigits_cons {sign : Char} (h : sign.isDigit = false) : ¬IsDigits (sign :: digits) :=
  fun hdigits => by simpa [h] using hdigits.2 sign List.mem_cons_self

/-- The texts that are read as an integer are the numerals. -/
theorem readInt?_eq_some_iff : readInt? t = some i ↔ IsNumeral t i := by
  unfold readInt?
  split
  next digits =>
    rw [Option.map_eq_some_iff]
    constructor
    · rintro ⟨n, hn, rfl⟩
      obtain ⟨hdigits, rfl⟩ := readNat?_eq_some_iff.1 hn
      exact .plus hdigits
    · intro h
      cases h with
      | unsigned hdigits => exact absurd hdigits (not_isDigits_cons (by decide))
      | plus hdigits => exact ⟨_, readNat?_eq_some_iff.2 ⟨hdigits, rfl⟩, rfl⟩
  next digits =>
    rw [Option.map_eq_some_iff]
    constructor
    · rintro ⟨n, hn, rfl⟩
      obtain ⟨hdigits, rfl⟩ := readNat?_eq_some_iff.1 hn
      exact .minus hdigits
    · intro h
      cases h with
      | unsigned hdigits => exact absurd hdigits (not_isDigits_cons (by decide))
      | minus hdigits => exact ⟨_, readNat?_eq_some_iff.2 ⟨hdigits, rfl⟩, rfl⟩
  next hplus hminus =>
    rw [Option.map_eq_some_iff]
    constructor
    · rintro ⟨n, hn, rfl⟩
      obtain ⟨hdigits, rfl⟩ := readNat?_eq_some_iff.1 hn
      exact .unsigned hdigits
    · intro h
      cases h with
      | unsigned hdigits => exact ⟨_, readNat?_eq_some_iff.2 ⟨hdigits, rfl⟩, rfl⟩
      | plus _ => exact absurd rfl (hplus _)
      | minus _ => exact absurd rfl (hminus _)

/-- The texts that are read as a 64-bit integer are the numerals of these integers. -/
theorem readInt64?_eq_some_iff {i : Int64} : readInt64? t = some i ↔ IsNumeral t i.toInt := by
  rw [← readInt?_eq_some_iff, readInt64?]
  cases hread : readInt? t with
  | none => simp
  | some n =>
    simp only [Option.ite_none_right_eq_some, Option.some.injEq]
    constructor
    · rintro ⟨⟨hmin, hmax⟩, rfl⟩
      exact (Int64.toInt_ofInt_of_le hmin (Int.lt_add_one_of_le hmax)).symm
    · rintro rfl
      exact ⟨⟨i.minValue_le_toInt, i.toInt_le⟩, i.ofInt_toInt⟩

theorem isDigits_repr (n : Nat) : IsDigits n.repr.toList := by
  rw [Nat.toList_repr]
  exact ⟨Nat.toDigits_ne_nil, fun c hc => Nat.isDigit_of_mem_toDigits (by decide) (by decide) hc⟩

theorem decimal_repr (n : Nat) : decimal n.repr.toList = n := by
  rw [Nat.toList_repr, ← ofDigitChars_eq_decimal, Nat.ofDigitChars_ten_toDigits]

/-- Numbers that are written alike are equal. -/
theorem repr_inj {m n : Nat} (h : m.repr.toList = n.repr.toList) : m = n := by
  rw [← decimal_repr m, h, decimal_repr]

theorem not_mem_repr {c : Char} (h : c.isDigit = false) (n : Nat) : c ∉ n.repr.toList := by
  intro hc
  simpa [h] using (isDigits_repr n).2 c hc

/-- An integer is written as a numeral of its own. -/
theorem isNumeral_toString (i : Int) : IsNumeral (toString i).toList i := by
  rw [Int.toString_eq_repr, Int.repr_eq_if]
  by_cases hi : 0 ≤ i
  · rw [if_pos hi]
    have hnumeral : IsNumeral i.toNat.repr.toList (decimal i.toNat.repr.toList) :=
      .unsigned (isDigits_repr _)
    rwa [decimal_repr, Int.toNat_of_nonneg hi] at hnumeral
  · rw [if_neg hi, String.toList_append]
    have hnumeral : IsNumeral ('-' :: (-i).toNat.repr.toList) (-decimal (-i).toNat.repr.toList) :=
      .minus (isDigits_repr _)
    rwa [decimal_repr, Int.toNat_of_nonneg (by omega), Int.neg_neg] at hnumeral

/-- The digits are next to each other. -/
theorem toNat_of_isDigit {c : Char} (h : c.isDigit) : 48 ≤ c.toNat ∧ c.toNat ≤ 57 :=
  Char.isDigit_iff_toNat.1 h

theorem isSpace_of_isDigit {c : Char} (h : c.isDigit) : isSpace c = false := by
  obtain ⟨hlow, hhigh⟩ := toNat_of_isDigit h
  simp only [isSpace, Bool.or_eq_false_iff, Bool.and_eq_false_iff, decide_eq_false_iff_not]
  omega

theorem isPrintable_of_isDigit {c : Char} (h : c.isDigit) : isPrintable c := by
  obtain ⟨hlow, hhigh⟩ := toNat_of_isDigit h
  exact isPrintable_of_ascii (by omega) (by omega)

/-- A numeral is made of digits and signs. -/
theorem IsNumeral.isDigit_or_sign (h : IsNumeral t i) {c : Char} (hc : c ∈ t) :
    c.isDigit ∨ c = '+' ∨ c = '-' := by
  cases h with
  | unsigned hdigits => exact .inl (hdigits.2 c hc)
  | plus hdigits =>
    rcases List.mem_cons.1 hc with rfl | hc
    · exact .inr (.inl rfl)
    · exact .inl (hdigits.2 c hc)
  | minus hdigits =>
    rcases List.mem_cons.1 hc with rfl | hc
    · exact .inr (.inr rfl)
    · exact .inl (hdigits.2 c hc)

/-- There is no white space in a numeral. -/
theorem IsNumeral.isSpace_eq_false (h : IsNumeral t i) {c : Char} (hc : c ∈ t) :
    isSpace c = false := by
  rcases h.isDigit_or_sign hc with hdigit | rfl | rfl
  · exact isSpace_of_isDigit hdigit
  · decide
  · decide

/-- A numeral is printable. -/
theorem IsNumeral.isPrintable (h : IsNumeral t i) {c : Char} (hc : c ∈ t) :
    Text.isPrintable c := by
  rcases h.isDigit_or_sign hc with hdigit | rfl | rfl
  · exact isPrintable_of_isDigit hdigit
  · decide
  · decide

/-- There is no colon in a numeral. -/
theorem IsNumeral.colon_not_mem (h : IsNumeral t i) : ':' ∉ t := fun hc => by
  rcases h.isDigit_or_sign hc with hdigit | hplus | hminus
  · exact absurd hdigit (by decide)
  · exact absurd hplus (by decide)
  · exact absurd hminus (by decide)

end Graft.Text
