import Graft.Diff
import Graft.Proofs.Diff.Script
import Graft.Proofs.Text.Numeral
import Graft.Proofs.Text.Pieces

/-!
# Hunks

* `Script.IsFramed.length_takeWhile_le`: how much is kept above and below what changes.
* `Hunk.IsPartOf`: a hunk shows what happens in one place, with little context around it.
* `Diff.isPartOf_of_mem_hunksFrom`, `Diff.flatMap_changes_hunksFrom`: every hunk is a part of the
  script, and the hunks show every change of the script, in order.
* `Hunk.shows_of_hunks_eq_singleton`: a hunk that is the only one shows how the second text comes
  about from the first.
* `Diff.exists_hunks_eq_singleton`: texts that differ in one place, with few tokens in it, have
  exactly one hunk.
-/

namespace Graft

namespace Script

variable {α : Type}

/-- The script goes from one change to another, or is one, with no more kept around than `count` on
either side. -/
def IsFramed (script : Script α) (count : Nat) : Prop :=
  ∃ above core below, script = keeping above ++ core ++ keeping below ∧
    above.length ≤ count ∧ below.length ≤ count ∧
    (∃ first ∈ core.head?, ¬first.isKeep) ∧ ∃ last ∈ core.getLast?, ¬last.isKeep

/-- Kept elements that stand in front of a change are all that is kept at the start. -/
theorem takeWhile_isKeep_append {kept core rest : Script α} (hkept : ∀ change ∈ kept, change.isKeep)
    (hcore : ∃ first ∈ core.head?, ¬first.isKeep) :
    (kept ++ core ++ rest).takeWhile Change.isKeep = kept := by
  obtain ⟨first, hfirst, hchange⟩ := hcore
  obtain ⟨more, rfl⟩ := List.head?_eq_some_iff.1 hfirst
  rw [List.append_assoc, List.takeWhile_append_of_pos hkept, List.cons_append,
    List.takeWhile_cons_of_neg hchange, List.append_nil]

/-- A script with little kept around it starts and ends with little that is kept. -/
theorem IsFramed.length_takeWhile_le {script : Script α} {count : Nat} (h : script.IsFramed count) :
    (script.takeWhile Change.isKeep).length ≤ count ∧
      (script.reverse.takeWhile Change.isKeep).length ≤ count := by
  obtain ⟨above, core, below, rfl, habove, hbelow, hfirst, hlast⟩ := h
  constructor
  · rw [takeWhile_isKeep_append (fun _ => isKeep_of_mem_keeping) hfirst]
    simpa [keeping] using habove
  · have hkept : ∀ change ∈ (keeping below).reverse, change.isKeep := fun change hchange =>
      isKeep_of_mem_keeping (List.mem_reverse.1 hchange)
    rw [List.reverse_append, List.reverse_append, ← List.append_assoc,
      takeWhile_isKeep_append hkept (by simpa using hlast)]
    simpa [keeping] using hbelow

end Script

namespace Position

variable {α : Type}

theorem advance_append (position : Position) (first second : Script α) :
    position.advance (first ++ second) = (position.advance first).advance second := by
  simp only [advance, Script.before_append, Script.after_append, List.length_append, Nat.add_assoc]

end Position

/-- The hunk shows a part of a script that starts at a position. -/
structure Hunk.IsPartOf (hunk : Hunk) (position : Position) (script : Script Text) : Prop where
  /-- What it shows stands in the script where it says. -/
  exists_append : ∃ front back, script = front ++ hunk.changes ++ back ∧
    hunk.start = position.advance front
  /-- Little more than what changes is shown. -/
  isFramed : hunk.changes.IsFramed Diff.context

namespace Diff

open Script

/-- The hunks of a script are found one after the other: of what is kept above the first change only
the context is shown, and then all up to where only the context is shown of what is next. -/
theorem hunksFrom_induction {motive : Position → Script Text → List Hunk → Prop}
    (keep : ∀ position script, (∀ change ∈ script, change.isKeep) → motive position script [])
    (change : ∀ position above core rest hunks, (∀ change ∈ above, change.isKeep) →
      (∃ first ∈ core.head?, ¬first.isKeep) → (∃ last ∈ core.getLast?, ¬last.isKeep) →
      (∀ change ∈ rest.take context, change.isKeep) →
      motive (position.advance (above ++ core)) rest hunks →
      motive position (above ++ core ++ rest)
        (⟨position.advance (above.take (above.length - context)),
          above.drop (above.length - context) ++ core ++ rest.take context⟩ :: hunks))
    (position : Position) (script : Script Text) :
    motive position script (hunksFrom position script) := by
  -- what is left behind a hunk is shorter than the script, as a change stands in front of it
  induction hlength : script.length using Nat.strongRecOn generalizing position script with
  | ind length ih =>
    rcases forall_isKeep_or_exists_change script with
      hall | ⟨kept, first, more, rfl, hkept, hfirst⟩
    · rw [hunksFrom_of_forall_isKeep hall]
      exact keep position script hall
    · rw [hunksFrom_append hkept hfirst]
      have hsplit : kept ++ first :: more =
          kept ++ (first :: more.take (reach context more)) ++ more.drop (reach context more) := by
        rw [List.append_assoc, List.cons_append, List.take_append_drop]
      have hrest := ih (more.drop (reach context more)).length ?_
        (position.advance (kept ++ first :: more.take (reach context more))) _ rfl
      · rw [hsplit]
        exact change position kept _ _ _ hkept ⟨first, rfl, hfirst⟩
          (exists_getLast?_take_reach hfirst more) (isKeep_of_mem_take_drop_reach more) hrest
      · rw [← hlength, List.length_drop, List.length_append, List.length_cons]
        omega

/-- Every hunk shows a part of the script. -/
theorem isPartOf_of_mem_hunksFrom (position : Position) (script : Script Text) :
    ∀ hunk ∈ hunksFrom position script, hunk.IsPartOf position script := by
  induction position, script using hunksFrom_induction with
  | keep position script hall => simp
  | change position above core rest hunks habove hfirst hlast hrest ih =>
    intro hunk hhunk
    rcases List.mem_cons.1 hhunk with rfl | hhunk
    · -- the first hunk: of what is kept around its changes, the rest is left out
      refine ⟨⟨above.take (above.length - context), rest.drop context, ?_, rfl⟩, ?_⟩
      · conv => lhs; rw [← List.take_append_drop (above.length - context) above,
          ← List.take_append_drop context rest]
        simp only [List.append_assoc]
      · have hshown : ∀ change ∈ above.drop (above.length - context), change.isKeep :=
          fun change hchange => habove change (List.mem_of_mem_drop hchange)
        refine ⟨before (above.drop (above.length - context)), core, before (rest.take context),
          ?_, ?_, ?_, hfirst, hlast⟩
        · rw [← eq_keeping hshown, ← eq_keeping hrest]
        · refine Nat.le_trans (List.length_filterMap_le _ _) ?_
          rw [List.length_drop]
          omega
        · exact Nat.le_trans (List.length_filterMap_le _ _) (List.length_take_le _ _)
    · -- a later hunk stands in what is left, which starts behind the changes of the first one
      obtain ⟨⟨front, back, hsplit, hstart⟩, hframed⟩ := ih hunk hhunk
      refine ⟨⟨above ++ core ++ front, back, ?_, ?_⟩, hframed⟩
      · rw [hsplit]
        simp only [List.append_assoc]
      · rw [hstart, Position.advance_append _ (above ++ core)]

/-- Every hunk of two texts shows a part of the script between their tokens. -/
theorem isPartOf_of_mem_hunks {hunk : Hunk} {before after : Text} (h : hunk ∈ hunks before after) :
    hunk.IsPartOf ⟨0, 0⟩ (between (tokens before) (tokens after)) :=
  isPartOf_of_mem_hunksFrom _ _ hunk h

/-- The hunks show every change of the script, in order. -/
theorem flatMap_changes_hunksFrom (position : Position) (script : Script Text) :
    ((hunksFrom position script).flatMap fun hunk => hunk.changes.filter (!·.isKeep)) =
      script.filter (!·.isKeep) := by
  have hnone : ∀ part : Script Text, (∀ change ∈ part, change.isKeep) →
      part.filter (!·.isKeep) = [] := fun part hpart =>
    List.filter_eq_nil_iff.2 fun change hchange => by simp [hpart change hchange]
  induction position, script using hunksFrom_induction with
  | keep position script hall => rw [hnone script hall, List.flatMap_nil]
  | change position above core rest hunks habove hfirst hlast hrest ih =>
    -- neither what is shown as context nor what is left out has a change
    have hshown := hnone (above.drop (above.length - context)) fun change hchange =>
      habove change (List.mem_of_mem_drop hchange)
    rw [List.flatMap_cons, ih]
    simp only [List.filter_append, hshown, hnone above habove, hnone _ hrest, List.nil_append,
      List.append_nil]

/-- Two texts that differ in one place, of which there are few tokens in the first text, have
exactly one hunk. -/
theorem exists_hunks_eq_singleton {before after : Text} {above old new below : List Text}
    (hbefore : tokens before = above ++ old ++ below)
    (hafter : tokens after = above ++ new ++ below)
    (hfew : old.length ≤ 2 * context) (hne : before ≠ after) :
    ∃ hunk, hunks before after = [hunk] := by
  have htokens : tokens before ≠ tokens after := fun heq => hne <| by
    rw [← flatten_tokens before, heq, flatten_tokens]
  obtain ⟨top, middle, bottom, hscript, hmiddle⟩ := exists_between_eq hbefore hafter htokens
  have hends : ∀ elements : List Text, ∀ change ∈ keeping elements, change.isKeep :=
    fun _ _ => isKeep_of_mem_keeping
  rcases forall_isKeep_or_exists_change middle with
    hall | ⟨kept, change, more, rfl, hkept, hchange⟩
  · -- without a change the tokens would be the same
    have hkeep : ∀ change ∈ between (tokens before) (tokens after), change.isKeep := by
      rw [hscript]
      simp only [List.forall_mem_append]
      exact ⟨⟨hends top, hall⟩, hends bottom⟩
    have heq := before_eq_after hkeep
    rw [before_between, after_between] at heq
    exact absurd heq htokens
  · have hsplit : keeping top ++ (kept ++ change :: more) ++ keeping bottom =
        (keeping top ++ kept) ++ change :: (more ++ keeping bottom) := by
      simp only [List.append_assoc, List.cons_append]
    have htop : ∀ change ∈ keeping top ++ kept, change.isKeep :=
      List.forall_mem_append.2 ⟨hends top, hkept⟩
    -- what is kept between the changes is taken apart with the place
    have hcount : more.countP Change.isKeep ≤ 2 * context := by
      have hsub : more.Sublist (kept ++ change :: more) :=
        (List.sublist_cons_self change more).trans (List.sublist_append_right kept _)
      exact Nat.le_trans hsub.countP_le
        (Nat.le_trans (countP_isKeep_le _) (Nat.le_trans hmiddle hfew))
    have hrest := isKeep_of_mem_drop_reach hcount (hends bottom)
    rw [hunks, hscript, hsplit, hunksFrom_append htop hchange]
    simp only [hunksFrom_of_forall_isKeep hrest]
    exact ⟨_, rfl⟩

end Diff

namespace Hunk

open Diff Script Text

/-! ## Headers -/

section Header

variable {start start' length length' : Nat}

theorem toList_range_one (start : Nat) : (range start 1).toList = (start + 1).repr.toList := by
  simp [range, Nat.toString_eq_repr]

theorem toList_range_of_ne_one (h : length ≠ 1) (start : Nat) : (range start length).toList =
    (if length = 0 then start else start + 1).repr.toList ++ ',' :: length.repr.toList := by
  by_cases hzero : length = 0
  · subst hzero
    simp [range, toString]
  · simp [range, h, hzero, toString]

/-- A range that is written alike is the same range. -/
theorem range_inj (h : range start length = range start' length') :
    start = start' ∧ length = length' := by
  have hchars := congrArg String.toList h
  by_cases hone : length = 1
  · by_cases hone' : length' = 1
    · subst hone hone'
      rw [toList_range_one, toList_range_one] at hchars
      exact ⟨Nat.succ.inj (repr_inj hchars), rfl⟩
    · -- only one of them has a comma
      rw [hone, toList_range_one, toList_range_of_ne_one hone'] at hchars
      exact absurd (hchars ▸ by simp) (not_mem_repr (c := ',') (by decide) (start + 1))
  · by_cases hone' : length' = 1
    · rw [hone', toList_range_one, toList_range_of_ne_one hone] at hchars
      exact absurd (hchars ▸ by simp) (not_mem_repr (c := ',') (by decide) (start' + 1))
    · rw [toList_range_of_ne_one hone, toList_range_of_ne_one hone'] at hchars
      obtain ⟨hfirst, hlength⟩ := append_cons_inj hchars (not_mem_repr (by decide) _)
        (not_mem_repr (by decide) _)
      have hfirst := repr_inj hfirst
      obtain rfl := repr_inj hlength
      refine ⟨?_, rfl⟩
      split at hfirst <;> omega

theorem space_not_mem_range (start length : Nat) : ' ' ∉ (range start length).toList := by
  by_cases hone : length = 1
  · rw [hone, toList_range_one]
    exact not_mem_repr (by decide) _
  · rw [toList_range_of_ne_one hone, List.mem_append, List.mem_cons]
    rintro (hfirst | hcomma | hlength)
    · exact not_mem_repr (by decide) _ hfirst
    · exact absurd hcomma (by decide)
    · exact not_mem_repr (by decide) _ hlength

/-- The header of a hunk tells the ranges that it covers. -/
theorem ranges_of_header_eq {hunk other : Hunk} (h : hunk.header = other.header) :
    hunk.start = other.start ∧ hunk.oldTokens.length = other.oldTokens.length ∧
      hunk.newTokens.length = other.newTokens.length := by
  have hheader : ∀ hunk : Hunk, hunk.header.toList = "@@ -".toList ++
      ((range hunk.start.old hunk.oldTokens.length).toList ++ ' ' :: '+' ::
        ((range hunk.start.new hunk.newTokens.length).toList ++ ' ' :: "@@".toList)) := by
    intro hunk
    simp [header]
  have hchars := congrArg String.toList h
  rw [hheader, hheader] at hchars
  -- there is no space in a range
  obtain ⟨hold, hrest⟩ := append_cons_inj (List.append_cancel_left hchars)
    (space_not_mem_range _ _) (space_not_mem_range _ _)
  obtain ⟨hnew, -⟩ := append_cons_inj (List.cons.inj hrest).2
    (space_not_mem_range _ _) (space_not_mem_range _ _)
  obtain ⟨hold, holdLength⟩ := range_inj (String.toList_inj.1 hold)
  obtain ⟨hnew, hnewLength⟩ := range_inj (String.toList_inj.1 hnew)
  refine ⟨?_, holdLength, hnewLength⟩
  calc
    hunk.start = ⟨hunk.start.old, hunk.start.new⟩ := rfl
    _ = ⟨other.start.old, other.start.new⟩ := by rw [hold, hnew]
    _ = other.start := rfl

end Header

/-! ## The only hunk -/

/-- The hunk shows how the second text comes about from the first. -/
structure Shows (hunk : Hunk) (before after : Text) : Prop where
  /-- What is kept and removed are the tokens of the first text in its range. -/
  oldTokens_eq :
    ((tokens before).drop hunk.start.old).take hunk.oldTokens.length = hunk.oldTokens
  /-- What is kept and added are the tokens of the second text in its range. -/
  newTokens_eq :
    ((tokens after).drop hunk.start.new).take hunk.newTokens.length = hunk.newTokens
  /-- Above the ranges the texts are the same. -/
  above_eq : (tokens before).take hunk.start.old = (tokens after).take hunk.start.new ∧
    hunk.start.old = hunk.start.new
  /-- Below the ranges the texts are the same. -/
  below_eq : (tokens before).drop (hunk.start.old + hunk.oldTokens.length) =
    (tokens after).drop (hunk.start.new + hunk.newTokens.length)
  /-- The second text has what is kept and added in place of the range of the first. -/
  after_eq : after = ((tokens before).take hunk.start.old ++ hunk.newTokens ++
    (tokens before).drop (hunk.start.old + hunk.oldTokens.length)).flatten
  /-- Little more than what changes is shown. -/
  isFramed : hunk.changes.IsFramed context
  /-- The ranges are the ones that the header gives. -/
  ranges_eq : ∀ other : Hunk, other.header = hunk.header → other.start = hunk.start ∧
    other.oldTokens.length = hunk.oldTokens.length ∧
    other.newTokens.length = hunk.newTokens.length

/-- Around what the only hunk shows both texts are the same. -/
theorem exists_shared_of_hunks_eq_singleton {hunk : Hunk} {before after : Text}
    (h : hunks before after = [hunk]) :
    ∃ above below, tokens before = above ++ hunk.oldTokens ++ below ∧
      tokens after = above ++ hunk.newTokens ++ below ∧
      hunk.start = ⟨above.length, above.length⟩ := by
  have hpart : hunk.IsPartOf ⟨0, 0⟩ (between (tokens before) (tokens after)) :=
    isPartOf_of_mem_hunks (h ▸ List.mem_singleton_self hunk)
  have hchanges := flatMap_changes_hunksFrom ⟨0, 0⟩ (between (tokens before) (tokens after))
  rw [← hunks, h, List.flatMap_singleton] at hchanges
  obtain ⟨⟨front, back, hsplit, hstart⟩, -⟩ := hpart
  -- no change is left for what is not shown
  have hkept : (∀ change ∈ front, change.isKeep) ∧ ∀ change ∈ back, change.isKeep := by
    have hlengths := congrArg List.length hchanges
    rw [hsplit, List.filter_append, List.filter_append, List.length_append, List.length_append]
      at hlengths
    have hnone : front.filter (!·.isKeep) = [] ∧ back.filter (!·.isKeep) = [] := by
      rw [← List.length_eq_zero_iff, ← List.length_eq_zero_iff]
      omega
    simpa [List.filter_eq_nil_iff] using hnone
  refine ⟨front.before, back.before, ?_, ?_, ?_⟩
  · rw [← before_between (tokens before) (tokens after), hsplit, before_append, before_append]
    rfl
  · rw [← after_between (tokens before) (tokens after), hsplit, after_append, after_append,
      before_eq_after hkept.1, before_eq_after hkept.2]
    rfl
  · simp [hstart, Position.advance, ← before_eq_after hkept.1]

/-- A hunk that is the only one shows how the second text comes about. -/
theorem shows_of_hunks_eq_singleton {hunk : Hunk} {before after : Text}
    (h : hunks before after = [hunk]) : hunk.Shows before after := by
  obtain ⟨above, below, hbefore, hafter, hstart⟩ := exists_shared_of_hunks_eq_singleton h
  -- a range is told by how much stands above it and by how much stands in it
  have hrange : ∀ (shown : List Text),
      ((above ++ shown ++ below).drop above.length).take shown.length = shown ∧
      (above ++ shown ++ below).take above.length = above ∧
      (above ++ shown ++ below).drop (above.length + shown.length) = below := by
    intro shown
    refine ⟨?_, ?_, ?_⟩
    · rw [List.append_assoc, List.drop_left, List.take_left]
    · rw [List.append_assoc, List.take_left]
    · rw [← List.length_append, List.drop_left]
  obtain ⟨hold, haboveOld, hbelowOld⟩ := hrange hunk.oldTokens
  obtain ⟨hnew, haboveNew, hbelowNew⟩ := hrange hunk.newTokens
  rw [← hbefore] at hold haboveOld hbelowOld
  rw [← hafter] at hnew haboveNew hbelowNew
  constructor
  case isFramed => exact (isPartOf_of_mem_hunks (h ▸ List.mem_singleton_self hunk)).isFramed
  case ranges_eq => exact fun other => ranges_of_header_eq
  all_goals rw [hstart]
  · exact hold
  · exact hnew
  · exact ⟨haboveOld.trans haboveNew.symm, rfl⟩
  · exact hbelowOld.trans hbelowNew.symm
  · rw [haboveOld, hbelowOld, ← hafter, flatten_tokens]

end Hunk

end Graft
