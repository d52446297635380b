import Graft.Text
import Mathlib.Data.List.TakeWhile

/-!
# Cutting and trimming

* `Text.cut?_eq_some_iff`, `Text.cut?_eq_none_iff`: a text is cut where its first separator stands.
* `Text.append_cons_inj`: there it comes apart in one way.
* `Text.trim_eq_self`: a text without white space has none to lose.
* `Text.mem_trim`: only white space is lost.
* `Text.trim_eq_nil_iff`: nothing is left of a blank text, and of no other.
-/

namespace Graft.Text

variable {sep : Char} {t before after : Text}

/-- A text is cut where its first separator stands. -/
theorem cut?_eq_some_iff :
    cut? sep t = some (before, after) ↔ t = before ++ sep :: after ∧ sep ∉ before := by
  induction t generalizing before with
  | nil => simp [cut?]
  | cons c t ih =>
    rw [cut?]
    by_cases hc : c = sep
    · -- the cut is right here, so that nothing stands before it
      rw [if_pos hc]
      constructor
      · intro h
        cases h
        simp [hc]
      · rintro ⟨h, hsep⟩
        cases before with
        | nil => rw [(List.cons.inj h).2]
        | cons d before => exact absurd ((List.cons.inj h).1 ▸ hc ▸ List.mem_cons_self) hsep
    · rw [if_neg hc, Option.map_eq_some_iff]
      constructor
      · rintro ⟨⟨front, back⟩, hcut, heq⟩
        cases heq
        obtain ⟨rfl, hsep⟩ := ih.1 hcut
        exact ⟨rfl, by simp [Ne.symm hc, hsep]⟩
      · rintro ⟨h, hsep⟩
        cases before with
        | nil => exact absurd (List.cons.inj h).1 hc
        | cons d before =>
          obtain ⟨rfl, rfl⟩ := List.cons.inj h
          have hfront : sep ∉ before := fun hmem => hsep (List.mem_cons_of_mem _ hmem)
          exact ⟨(before, after), ih.2 ⟨rfl, hfront⟩, rfl⟩

/-- Around the first separator a text comes apart in one way. -/
theorem append_cons_inj {before' after' : Text}
    (h : before ++ sep :: after = before' ++ sep :: after') (hsep : sep ∉ before)
    (hsep' : sep ∉ before') : before = before' ∧ after = after' := by
  have hcut : cut? sep (before ++ sep :: after) = some (before', after') :=
    cut?_eq_some_iff.2 ⟨h, hsep'⟩
  rw [cut?_eq_some_iff.2 ⟨rfl, hsep⟩] at hcut
  exact Prod.mk.inj (Option.some.inj hcut)

/-- A text without the separator is not cut. -/
theorem cut?_eq_none_iff : cut? sep t = none ↔ sep ∉ t := by
  induction t with
  | nil => simp [cut?]
  | cons c t ih =>
    rw [cut?]
    by_cases hc : c = sep
    · simp [hc]
    · simp [hc, Ne.symm hc, ih]

/-- A text without white space has none to lose at its ends. -/
theorem trim_eq_self (h : ∀ c ∈ t, isSpace c = false) : t.trim = t := by
  have hstart : ∀ u : Text, (∀ c ∈ u, isSpace c = false) → u.dropWhile isSpace = u := by
    intro u hu
    cases u with
    | nil => rfl
    | cons c u => rw [List.dropWhile_cons_of_neg (by simp [hu c List.mem_cons_self])]
  rw [trim, trimStart, trimEnd, hstart t h, hstart t.reverse (by simpa using h),
    List.reverse_reverse]

/-- Only white space is trimmed. -/
theorem mem_trim {c : Char} (hc : c ∈ t) (hspace : isSpace c = false) : c ∈ t.trim := by
  have hdrop : ∀ u : Text, c ∈ u → c ∈ u.dropWhile isSpace := by
    intro u hu
    rw [← List.takeWhile_append_dropWhile (p := isSpace) (l := u), List.mem_append] at hu
    refine hu.resolve_left fun htake => ?_
    rw [List.all_eq_true.1 List.all_takeWhile c htake] at hspace
    cases hspace
  rw [trim, trimStart, trimEnd, List.mem_reverse]
  exact hdrop _ (List.mem_reverse.2 (hdrop t hc))

/-- Nothing is left of a blank text, and of no other. -/
theorem trim_eq_nil_iff : t.trim = [] ↔ t.isBlank := by
  constructor
  · intro hnil
    rw [isBlank, List.all_eq_true]
    intro c hc
    -- what is no white space would be left
    cases hspace : isSpace c with
    | true => rfl
    | false => exact absurd (mem_trim hc hspace) (hnil ▸ List.not_mem_nil)
  · intro hblank
    have hstart : t.trimStart = [] :=
      List.dropWhile_eq_nil_iff.2 (List.all_eq_true.1 hblank)
    rw [trim, hstart]
    rfl

end Graft.Text
