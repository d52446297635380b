import Graft.Diff.Script
import Mathlib.Data.List.TakeWhile

/-!
# What scripts keep

* `Script.eq_keeping`: a script that keeps everything is known from the list that it keeps.
* `Script.exists_between_eq`: where two lists differ in one place only, their script keeps what
  stands around that place, and takes apart no more of the first list than the place.
* `Script.isKeep_of_mem_drop_reach`: changes with little between them are reached without a stop.
-/

namespace Graft

variable {α : Type}

section Shared

variable [DecidableEq α] {part as bs : List α}

/-- What two lists have in common at the start is all of it. -/
theorem length_le_sharedStart (has : part <+: as) (hbs : part <+: bs) :
    part.length ≤ sharedStart as bs := by
  induction part generalizing as bs with
  | nil => exact Nat.zero_le _
  | cons a part ih =>
    obtain ⟨as, rfl⟩ := has
    obtain ⟨bs, rfl⟩ := hbs
    simp only [List.cons_append, sharedStart, if_true, List.length_cons]
    exact Nat.succ_le_succ (ih (List.prefix_append _ _) (List.prefix_append _ _))

/-- What two lists have in common at the end is all of it. -/
theorem length_le_sharedEnd (has : part <:+ as) (hbs : part <:+ bs) :
    part.length ≤ sharedEnd as bs := by
  rw [← List.length_reverse]
  exact length_le_sharedStart (List.reverse_prefix.2 has) (List.reverse_prefix.2 hbs)

/-- No more is in common at the start than either list has. -/
theorem sharedStart_le (as bs : List α) :
    sharedStart as bs ≤ as.length ∧ sharedStart as bs ≤ bs.length := by
  fun_induction sharedStart as bs <;> simp_all

/-- Of two lists that differ in one place only, no more of the first one is left between what they
share than the place. -/
theorem length_sub_shared_le {old new start first second last : List α}
    (hold : old = start ++ first ++ last) (hnew : new = start ++ second ++ last) :
    let oldRest := old.drop (sharedStart old new)
    let newRest := new.drop (sharedStart old new)
    oldRest.length - sharedEnd oldRest newRest ≤ first.length := by
  intro oldRest newRest
  have hstart : start.length ≤ sharedStart old new := by
    apply length_le_sharedStart
    · rw [hold, List.append_assoc]
      exact List.prefix_append _ _
    · rw [hnew, List.append_assoc]
      exact List.prefix_append _ _
  -- what both lists end in is shared, as far as it is left in both
  let left := last.drop (last.length - min oldRest.length newRest.length)
  have hleft : left.length = min last.length (min oldRest.length newRest.length) := by
    rw [List.length_drop]
    omega
  have hshared : left.length ≤ sharedEnd oldRest newRest := by
    have hlast : left <:+ last := List.drop_suffix _ _
    apply length_le_sharedEnd
    · refine List.suffix_of_suffix_length_le (hlast.trans ?_) (List.drop_suffix _ _) (by omega)
      exact hold ▸ List.suffix_append _ _
    · refine List.suffix_of_suffix_length_le (hlast.trans ?_) (List.drop_suffix _ _) (by omega)
      exact hnew ▸ List.suffix_append _ _
  have hlengths : oldRest.length = old.length - sharedStart old new ∧
      newRest.length = new.length - sharedStart old new :=
    ⟨List.length_drop, List.length_drop⟩
  have hbounds := sharedStart_le old new
  have holdLength : old.length = start.length + first.length + last.length := by
    rw [hold, List.length_append, List.length_append]
  have hnewLength : new.length = start.length + second.length + last.length := by
    rw [hnew, List.length_append, List.length_append]
  omega

end Shared

namespace Script

variable {script : Script α} {elements : List α} {count : Nat}

theorem isKeep_of_mem_keeping {change : Change α} (h : change ∈ keeping elements) :
    change.isKeep := by
  obtain ⟨element, -, rfl⟩ := List.mem_map.1 h
  rfl

/-- A script that keeps everything is known from the list that it keeps. -/
theorem eq_keeping (h : ∀ change ∈ script, change.isKeep) : script = keeping (before script) := by
  induction script with
  | nil => rfl
  | cons change script ih =>
    have hrest := ih fun other hother => h other (List.mem_cons_of_mem _ hother)
    cases change with
    | keep element => exact congrArg (.keep element :: ·) hrest
    | remove element | add element =>
      exact absurd (h _ List.mem_cons_self) (by simp [Change.isKeep])

/-- A script that keeps everything goes from a list to the same list. -/
theorem before_eq_after (h : ∀ change ∈ script, change.isKeep) : before script = after script := by
  rw [eq_keeping h, before_keeping, after_keeping]

/-- No more is kept than there is in the first list. -/
theorem countP_isKeep_le (script : Script α) :
    script.countP Change.isKeep ≤ (before script).length := by
  induction script with
  | nil => exact Nat.le_refl 0
  | cons change script ih =>
    cases change <;>
      simp only [List.countP_cons, Change.isKeep, before_cons, Change.before?,
        Option.toList_some, Option.toList_none, List.cons_append, List.nil_append,
        List.length_cons, if_true, Bool.false_eq_true, if_false] <;>
      omega

/-! ## Scripts between lists that share much -/

/-- Nothing is moved past what is kept at the start. -/
theorem settle_keeping_append (elements : List α) (script : Script α) :
    settle (keeping elements ++ script) = keeping elements ++ settle script := by
  induction elements with
  | nil => rfl
  | cons element elements ih => exact congrArg (.keep element :: ·) ih

/-- Removals end where something is kept. -/
theorem takeWhile_isRemove_append_keeping (script : Script α) (elements : List α) :
    (script ++ keeping elements).takeWhile Change.isRemove = script.takeWhile Change.isRemove ∧
      (script ++ keeping elements).dropWhile Change.isRemove =
        script.dropWhile Change.isRemove ++ keeping elements := by
  induction script with
  | nil => cases elements <;> exact ⟨rfl, rfl⟩
  | cons change script ih =>
    cases change with
    | remove element =>
      rw [List.cons_append, List.takeWhile_cons_of_pos rfl, List.takeWhile_cons_of_pos rfl,
        List.dropWhile_cons_of_pos rfl, List.dropWhile_cons_of_pos rfl, ih.1]
      exact ⟨rfl, ih.2⟩
    | keep element | add element => exact ⟨rfl, rfl⟩

/-- Nothing is moved past what is kept at the end. -/
theorem settle_append_keeping (script : Script α) (elements : List α) :
    settle (script ++ keeping elements) = settle script ++ keeping elements := by
  induction script with
  | nil => simpa [settle] using settle_keeping_append elements []
  | cons change script ih =>
    cases change with
    | keep element | remove element => exact congrArg (_ :: ·) ih
    | add element =>
      obtain ⟨htake, hdrop⟩ := takeWhile_isRemove_append_keeping (settle script) elements
      simp only [List.cons_append, settle, ih, htake, hdrop, List.append_assoc]

/-- Where two lists differ in one place only, their script keeps what stands around that place, and
takes apart no more of the first list than the place. -/
theorem exists_between_eq [DecidableEq α] {old new start first second last : List α}
    (hold : old = start ++ first ++ last) (hnew : new = start ++ second ++ last)
    (hne : old ≠ new) :
    ∃ top middle bottom, between old new = keeping top ++ middle ++ keeping bottom ∧
      (before middle).length ≤ first.length := by
  -- there is at least one cut to be made
  obtain ⟨cuts, hcuts⟩ : ∃ cuts, old.length + new.length = cuts + 1 := by
    refine Nat.exists_eq_succ_of_ne_zero fun hzero => hne ?_
    obtain ⟨hold, hnew⟩ := Nat.add_eq_zero_iff.1 hzero
    rw [List.length_eq_zero_iff.1 hold, List.length_eq_zero_iff.1 hnew]
  let top := sharedStart old new
  let bottom := sharedEnd (old.drop top) (new.drop top)
  let inner := halving (cutting cuts)
    ((old.drop top).take ((old.drop top).length - bottom))
    ((new.drop top).take ((new.drop top).length - bottom))
  refine ⟨old.take top, settle inner, (old.drop top).drop ((old.drop top).length - bottom), ?_, ?_⟩
  · rw [between, hcuts]
    exact (settle_append_keeping _ _).trans (congrArg (· ++ _) (settle_keeping_append _ _))
  · rw [before_settle, before_halving (before_cutting cuts)]
    exact Nat.le_trans (List.length_take_le _ _) (length_sub_shared_le hold hnew)

/-! ## How far changes reach -/

/-- All is kept, or there is a first change. -/
theorem forall_isKeep_or_exists_change (script : Script α) :
    (∀ change ∈ script, change.isKeep) ∨
      ∃ kept change more, script = kept ++ change :: more ∧ (∀ other ∈ kept, other.isKeep) ∧
        ¬change.isKeep := by
  cases h : script.dropWhile Change.isKeep with
  | nil => exact .inl (List.dropWhile_eq_nil_iff.1 h)
  | cons change more =>
    refine .inr ⟨script.takeWhile Change.isKeep, change, more, ?_,
      fun other => List.mem_takeWhile_imp, ?_⟩
    · rw [← h, List.takeWhile_append_dropWhile]
    · have hhead := List.head?_dropWhile_not Change.isKeep script
      simpa [h] using hhead

/-- Nothing is reached where all are kept, or more in a row than two contexts show. -/
theorem reach_eq_zero_iff {script : Script α} :
    reach count script = 0 ↔ 2 * count < (script.takeWhile Change.isKeep).length ∨
      ∀ change ∈ script, change.isKeep := by
  have hall : (∀ change ∈ script, change.isKeep) ↔
      (script.takeWhile Change.isKeep).length = script.length := by
    rw [← List.takeWhile_eq_self_iff]
    exact ⟨congrArg List.length, (List.takeWhile_prefix _).eq_of_length⟩
  rw [hall]
  cases script with
  | nil => simp [reach]
  | cons change rest =>
    rw [reach]
    split
    next hstop => simpa using hstop
    next hgo => simpa using hgo

/-- What is reached is reached change by change. -/
theorem reach_cons_of_ne_zero {change : Change α} {rest : Script α}
    (h : reach count (change :: rest) ≠ 0) :
    reach count (change :: rest) = reach count rest + 1 := by
  rw [reach] at h ⊢
  split
  next hstop => exact absurd (if_pos hstop) h
  next => rfl

/-- Where a reach ends, what is next is kept, as far as a context goes. -/
theorem isKeep_of_mem_take_drop_reach (script : Script α) :
    ∀ change ∈ (script.drop (reach count script)).take count, change.isKeep := by
  induction script with
  | nil => simp
  | cons change rest ih =>
    by_cases hstop : reach count (change :: rest) = 0
    · rw [hstop, List.drop_zero]
      rcases reach_eq_zero_iff.1 hstop with hlong | hall
      · -- the row of kept changes is longer than a context
        have hlength : ((change :: rest).take count).length ≤
            ((change :: rest).takeWhile Change.isKeep).length := by
          rw [List.length_take]
          omega
        have htake : (change :: rest).take count <+: (change :: rest).takeWhile Change.isKeep :=
          List.prefix_of_prefix_length_le (List.take_prefix _ _) (List.takeWhile_prefix _) hlength
        exact fun other hother => List.mem_takeWhile_imp (htake.subset hother)
      · exact fun other hother => hall other (List.mem_of_mem_take hother)
    · rw [reach_cons_of_ne_zero hstop, List.drop_succ_cons]
      exact ih

/-- A reach ends in a change. -/
theorem exists_getLast?_take_reach {change : Change α} (h : ¬change.isKeep) (script : Script α) :
    ∃ last ∈ (change :: script.take (reach count script)).getLast?, ¬last.isKeep := by
  induction script generalizing change with
  | nil => exact ⟨change, rfl, h⟩
  | cons next rest ih =>
    by_cases hstop : reach count (next :: rest) = 0
    · rw [hstop]
      exact ⟨change, rfl, h⟩
    · rw [reach_cons_of_ne_zero hstop, List.take_succ_cons, List.getLast?_cons_cons]
      by_cases hnext : next.isKeep
      · -- a kept change is not the last that is reached
        have hmore : rest.take (reach count rest) ≠ [] := by
          intro hnil
          have hzero : reach count rest = 0 := by
            rcases List.take_eq_nil_iff.1 hnil with hzero | rfl
            · exact hzero
            · rfl
          refine hstop (reach_eq_zero_iff.2 ((reach_eq_zero_iff.1 hzero).imp ?_ ?_))
          · intro hlong
            rw [List.takeWhile_cons_of_pos hnext]
            exact Nat.lt_succ_of_lt hlong
          · exact fun hall => List.forall_mem_cons.2 ⟨hnext, hall⟩
        obtain ⟨other, more, hcons⟩ := List.exists_cons_of_ne_nil hmore
        have hlast := ih h
        rwa [hcons, List.getLast?_cons_cons] at hlast ⊢
      · exact ih hnext

/-- A script that keeps no more between its changes than two contexts show is reached to the end of
its changes. -/
theorem isKeep_of_mem_drop_reach {middle bottom : Script α}
    (hmiddle : middle.countP Change.isKeep ≤ 2 * count)
    (hbottom : ∀ change ∈ bottom, change.isKeep) :
    ∀ change ∈ (middle ++ bottom).drop (reach count (middle ++ bottom)), change.isKeep := by
  induction middle with
  | nil => exact fun change hchange => hbottom change (List.mem_of_mem_drop hchange)
  | cons first middle ih =>
    by_cases hstop : reach count (first :: (middle ++ bottom)) = 0
    · rw [List.cons_append, hstop, List.drop_zero]
      refine (reach_eq_zero_iff.1 hstop).elim (fun hlong => ?_) id
      rw [← List.cons_append] at hlong ⊢
      rcases forall_isKeep_or_exists_change (first :: middle) with
        hall | ⟨kept, change, more, heq, hkept, hchange⟩
      · exact List.forall_mem_append.2 ⟨hall, hbottom⟩
      · -- there are not as many kept changes as that before the first change
        rw [heq, List.append_assoc, List.takeWhile_append_of_pos hkept, List.cons_append,
          List.takeWhile_cons_of_neg hchange, List.append_nil] at hlong
        have hcount : kept.length ≤ (first :: middle).countP Change.isKeep := by
          rw [heq, List.countP_append, List.countP_eq_length.2 hkept]
          exact Nat.le_add_right _ _
        omega
    · rw [List.cons_append, reach_cons_of_ne_zero hstop, List.drop_succ_cons]
      exact ih (Nat.le_trans (List.sublist_cons_self first middle).countP_le hmiddle)

end Script

end Graft
