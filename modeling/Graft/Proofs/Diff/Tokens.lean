import Graft.Diff

/-!
# Tokens around a place in a text

* `Diff.EndsToken`: whether a token ends behind a character is told by that character and the next
  one.
* `Diff.tokens_append`: behind a newline a token ends, whatever comes next.
* `Diff.dropLast_tokens_prefix`, `Diff.tail_tokens_suffix`: what comes next changes the last token
  only, and what comes before changes the first one only.
* `Diff.exists_tokens_insert`: what is put into a text behind a newline, or at one of its ends,
  changes at most one token.
-/

namespace Graft.Diff

variable {c : Char} {t u v : Text}

/-- A token ends behind a newline, and behind a carriage return that no newline follows. -/
def EndsToken (c : Char) (next? : Option Char) : Prop :=
  c = '\n' ∨ c = '\r' ∧ next? ≠ some '\n'

theorem tokens_cons_of_endsToken (h : EndsToken c t.head?) : tokens (c :: t) = [c] :: tokens t := by
  have hother : ∀ rest, c = '\r' → t = '\n' :: rest → False := by
    rintro rest rfl rfl
    simp [EndsToken] at h
  rw [tokens.eq_3 c t hother, if_pos (h.imp_right And.left)]

/-- A character that ends no token goes in front of the next one. -/
theorem tokens_cons_of_not_endsToken (h : ¬EndsToken c t.head?) :
    tokens (c :: t) = (c :: (tokens t).headD []) :: (tokens t).tail := by
  by_cases hpair : c = '\r' ∧ t.head? = some '\n'
  · obtain ⟨rfl, hhead⟩ := hpair
    obtain ⟨rest, rfl⟩ := List.head?_eq_some_iff.1 hhead
    simp [tokens]
  · have hother : ∀ rest, c = '\r' → t = '\n' :: rest → False := by
      rintro rest rfl rfl
      exact hpair ⟨rfl, rfl⟩
    have hne : ¬(c = '\n' ∨ c = '\r') := fun hend =>
      h (hend.imp_right fun hreturn => ⟨hreturn, fun hhead => hpair ⟨hreturn, hhead⟩⟩)
    rw [tokens.eq_3 c t hother, if_neg hne]
    cases tokens t <;> rfl

theorem tokens_ne_nil (h : t ≠ []) : tokens t ≠ [] := by
  cases t with
  | nil => exact absurd rfl h
  | cons c t =>
    by_cases hend : EndsToken c t.head?
    · simp [tokens_cons_of_endsToken hend]
    · simp [tokens_cons_of_not_endsToken hend]

/-- Behind a newline a token ends, whatever comes next. -/
theorem tokens_append (h : u = [] ∨ u.getLast? = some '\n') (t : Text) :
    tokens (u ++ t) = tokens u ++ tokens t := by
  induction u with
  | nil => rfl
  | cons c u ih =>
    cases u with
    | nil =>
      obtain rfl : c = '\n' := by simpa using h
      exact tokens_cons_of_endsToken (.inl rfl)
    | cons d u =>
      -- the next character is the same with and without what comes behind
      have hlast : (d :: u).getLast? = some '\n' := by simpa using h
      obtain ⟨token, rest, htokens⟩ :=
        List.exists_cons_of_ne_nil (tokens_ne_nil (List.cons_ne_nil d u))
      have happend : tokens (d :: u ++ t) = token :: (rest ++ tokens t) := by
        rw [ih (.inr hlast), htokens, List.cons_append]
      rw [List.cons_append]
      by_cases hend : EndsToken c (some d)
      · rw [tokens_cons_of_endsToken hend, tokens_cons_of_endsToken hend, happend, htokens]
        rfl
      · rw [tokens_cons_of_not_endsToken hend, tokens_cons_of_not_endsToken hend, happend, htokens]
        rfl

/-- What comes before a text changes its first token only. -/
theorem tail_tokens_suffix (u t : Text) : (tokens t).tail <:+ (tokens (u ++ t)).tail := by
  induction u with
  | nil => exact List.suffix_rfl
  | cons c u ih =>
    rw [List.cons_append]
    by_cases hend : EndsToken c (u ++ t).head?
    · rw [tokens_cons_of_endsToken hend]
      exact ih.trans (List.tail_suffix _)
    · rw [tokens_cons_of_not_endsToken hend]
      exact ih

/-- What comes after a text changes its last token only. -/
theorem dropLast_tokens_prefix (t u : Text) : (tokens t).dropLast <+: tokens (t ++ u) := by
  induction t with
  | nil => exact List.nil_prefix
  | cons c t ih =>
    cases t with
    | nil =>
      have hone : tokens [c] = [[c]] := by
        by_cases hend : EndsToken c none
        · exact tokens_cons_of_endsToken hend
        · exact tokens_cons_of_not_endsToken hend
      rw [hone]
      exact List.nil_prefix
    | cons d t =>
      obtain ⟨token, rest, htokens⟩ :=
        List.exists_cons_of_ne_nil (tokens_ne_nil (List.cons_ne_nil d t))
      rw [htokens] at ih
      rw [List.cons_append]
      by_cases hend : EndsToken c (some d)
      · rw [tokens_cons_of_endsToken (t := d :: t) hend,
          tokens_cons_of_endsToken (t := d :: t ++ u) hend, htokens,
          List.dropLast_cons_of_ne_nil (List.cons_ne_nil _ _)]
        exact (List.prefix_cons_inj _).2 ih
      · rw [tokens_cons_of_not_endsToken (t := d :: t) hend,
          tokens_cons_of_not_endsToken (t := d :: t ++ u) hend, htokens]
        cases rest with
        | nil => exact List.nil_prefix
        | cons next rest =>
          -- the token that the character is put to is not the last one
          obtain ⟨more, hmore⟩ := ih
          rw [← hmore]
          exact List.prefix_append _ _

/-- What is put into a text behind a newline, or at one of its ends, changes at most one token. -/
theorem exists_tokens_insert (h : u = [] ∨ u.getLast? = some '\n' ∨ v = []) (t : Text) :
    ∃ above old new below, tokens (u ++ v) = above ++ old ++ below ∧
      tokens (u ++ t ++ v) = above ++ new ++ below ∧ old.length ≤ 1 := by
  by_cases hv : v = []
  · -- at the end the last token may grow
    subst hv
    rw [List.append_nil, List.append_nil]
    obtain ⟨new, hnew⟩ := dropLast_tokens_prefix u t
    refine ⟨(tokens u).dropLast, (tokens u).getLast?.toList, new, [], ?_, ?_, ?_⟩
    · rw [List.append_nil]
      cases hlast : (tokens u).getLast? with
      | none => simp [List.getLast?_eq_none_iff.1 hlast]
      | some last =>
        obtain ⟨front, hfront⟩ := List.getLast?_eq_some_iff.1 hlast
        simp [hfront]
    · rw [List.append_nil, hnew]
    · cases (tokens u).getLast? <;> simp
  · -- behind a newline the first token may be drawn to what comes before
    have hu : u = [] ∨ u.getLast? = some '\n' := by simpa [hv] using h
    obtain ⟨new, hnew⟩ := (tail_tokens_suffix t v).trans (List.tail_suffix _)
    refine ⟨tokens u, (tokens v).head?.toList, new, (tokens v).tail, ?_, ?_, ?_⟩
    · rw [tokens_append hu, List.append_assoc]
      cases tokens v <;> rfl
    · rw [List.append_assoc, tokens_append hu, List.append_assoc, hnew]
    · cases (tokens v).head? <;> simp

end Graft.Diff
