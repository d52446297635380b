/-!
# Scripts of changes

How one list becomes another: element by element, what is kept, removed and added. What both lists
share at the start and then at the end is kept. The rest is cut in two where a search from the start
meets a search from the end, and each part is treated in the same way. Both searches go from the
ways with few changes to those with many, so the script is a short one.

* `Script.before_between`, `Script.after_between`: the script between two lists takes the first one
  apart and builds the second one.
* `Script.before_settle`, `Script.after_settle`: the order of removals and additions does not
  matter.
-/

namespace Graft

variable {α : Type}

/-- What happens to one element. -/
inductive Change (α : Type)
  /-- Both lists have it. -/
  | keep (element : α)
  /-- Only the first list has it. -/
  | remove (element : α)
  /-- Only the second list has it. -/
  | add (element : α)
  deriving DecidableEq, Repr

namespace Change

/-- The element in the first list. -/
def before? : Change α → Option α
  | keep element | remove element => some element
  | add _ => none

/-- The element in the second list. -/
def after? : Change α → Option α
  | keep element | add element => some element
  | remove _ => none

/-- Whether the element is in both lists. -/
def isKeep : Change α → Bool
  | keep _ => true
  | remove _ | add _ => false

/-- Whether the element is lost. -/
def isRemove : Change α → Bool
  | remove _ => true
  | keep _ | add _ => false

end Change

/-- How many elements two lists have in common at the start. -/
def sharedStart [DecidableEq α] : List α → List α → Nat
  | a :: as, b :: bs => if a = b then sharedStart as bs + 1 else 0
  | _, _ => 0

/-- How many elements two lists have in common at the end. -/
def sharedEnd [DecidableEq α] (as bs : List α) : Nat :=
  sharedStart as.reverse bs.reverse

/-- What two lists have in common at the start is the same part of both. -/
theorem take_sharedStart [DecidableEq α] (as bs : List α) :
    as.take (sharedStart as bs) = bs.take (sharedStart as bs) := by
  fun_induction sharedStart as bs <;> simp_all

/-- What two lists have in common at the end is the same part of both. -/
theorem drop_sharedEnd [DecidableEq α] (as bs : List α) :
    as.drop (as.length - sharedEnd as bs) = bs.drop (bs.length - sharedEnd as bs) := by
  have h := take_sharedStart as.reverse bs.reverse
  rw [List.take_reverse, List.take_reverse] at h
  exact List.reverse_inj.mp h

/-- A position in two lists. -/
structure Position where
  /-- How many elements of the first list come before it. -/
  old : Nat
  /-- How many elements of the second list come before it. -/
  new : Nat
  deriving DecidableEq, Repr

namespace Position

/-- Pass over what the lists share from here on. -/
def slide [DecidableEq α] (old new : List α) (position : Position) : Position :=
  match old.drop position.old with
  | [] => position
  | rest =>
    let shared := sharedStart rest (new.drop position.new)
    ⟨position.old + shared, position.new + shared⟩

/-- Where one more change leads to. Of two neighbours, an addition to the first and a removal from
the second leave the same balance of removals and additions; the one that is further along wins. -/
def afterChange (last : Position) : List Position → List Position
  | [] => [⟨last.old, last.new + 1⟩]
  | next :: rest =>
    (if next.old < last.old then ⟨last.old, last.new + 1⟩ else ⟨next.old + 1, next.new⟩)
      :: next.afterChange rest

/-- Where one more change leads to, ordered from removals only to additions only. Before the first
change a search stands at the start. -/
def frontier : List Position → List Position
  | [] => [⟨0, 0⟩]
  | first :: rest => ⟨first.old + 1, first.new⟩ :: first.afterChange rest

end Position

/-- Where a search stands right after a change, and where it gets from there without one. -/
structure Reach where
  /-- Right after the change. -/
  start : Position
  /-- Where the lists differ next. -/
  stop : Position
  deriving DecidableEq, Repr

namespace Reach

/-- One more change for each way that a search follows, as far as it gets without another. -/
def advance [DecidableEq α] (old new : List α) (reaches : List Reach) : List Reach :=
  (Position.frontier (reaches.map Reach.stop)).map fun start => ⟨start, start.slide old new⟩

/-- The first way of a search that meets one of the search from the other end, in lists of these
lengths. Two ways can only meet if their balances add up to that of the lists; one search is ordered
by falling balance and the other by rising balance. -/
def meeting? (oldLength newLength : Nat) : List Reach → List Reach → Option Reach
  | reach :: reaches, other :: others =>
    let old := reach.stop.old + other.stop.old
    let new := reach.stop.new + other.stop.new
    if old + newLength < new + oldLength then
      meeting? oldLength newLength (reach :: reaches) others
    else if new + oldLength < old + newLength ∨ old < oldLength then
      meeting? oldLength newLength reaches (other :: others)
    else some reach
  | _, _ => none
  termination_by reaches others => reaches.length + others.length

end Reach

/-- Search from both ends, for at most so many rounds, and give the position where the searches
meet. -/
def Position.search? [DecidableEq α] (old new : List α) :
    (rounds : Nat) → (fromStart fromEnd : List Reach) → Option Position
  | 0, _, _ => none
  | rounds + 1, fromStart, fromEnd =>
    let fromStart := Reach.advance old new fromStart
    match Reach.meeting? old.length new.length fromStart fromEnd.reverse with
    | some reach => some reach.start
    | none =>
      let fromEnd := Reach.advance old.reverse new.reverse fromEnd
      match Reach.meeting? old.length new.length fromEnd fromStart.reverse with
      | some reach => some ⟨old.length - reach.stop.old, new.length - reach.stop.new⟩
      | none => search? old new rounds fromStart fromEnd

/-- A position on a way with few changes at which two lists can be cut. -/
def Position.middle? [DecidableEq α] (old new : List α) : Option Position :=
  Position.search? old new ((old.length + new.length + 1) / 2 + 1) [] []

/-- What happens to the elements of two lists, in order. -/
abbrev Script (α : Type) := List (Change α)

namespace Script

/-- The list that a script takes apart. -/
def before (script : Script α) : List α :=
  script.filterMap Change.before?

/-- The list that a script builds. -/
def after (script : Script α) : List α :=
  script.filterMap Change.after?

/-- How many elements there are up to the end of what changes: either all others are kept, or more
of them in a row than a context on both sides of the row shows. -/
def reach (context : Nat) : Script α → Nat
  | [] => 0
  | change :: rest =>
    let kept := (change :: rest).takeWhile Change.isKeep
    if 2 * context < kept.length || kept.length = (change :: rest).length then 0
    else reach context rest + 1

/-- Keep all elements. -/
def keeping (elements : List α) : Script α :=
  elements.map .keep

/-- Remove all elements of one list and add all of another. -/
def replacing (old new : List α) : Script α :=
  old.map .remove ++ new.map .add

/-- Put the removals of each run of changes before its additions. -/
def settle : Script α → Script α
  | [] => []
  | .add element :: rest =>
    let settled := settle rest
    settled.takeWhile Change.isRemove ++ .add element :: settled.dropWhile Change.isRemove
  | change :: rest => change :: settle rest

/-- Keep what two lists share at the start and then at the end; the rest is a matter of `inner`. -/
def sharing [DecidableEq α] (inner : List α → List α → Script α) (old new : List α) : Script α :=
  let top := sharedStart old new
  let oldRest := old.drop top
  let newRest := new.drop top
  let bottom := sharedEnd oldRest newRest
  keeping (old.take top)
    ++ inner (oldRest.take (oldRest.length - bottom)) (newRest.take (newRest.length - bottom))
    ++ keeping (oldRest.drop (oldRest.length - bottom))

/-- Cut two lists in their middle; both parts are a matter of `part`. -/
def halving [DecidableEq α] (part : List α → List α → Script α) (old new : List α) : Script α :=
  if old.isEmpty || new.isEmpty then replacing old new
  else
    match Position.middle? old new with
    | some middle =>
      part (old.take middle.old) (new.take middle.new)
        ++ part (old.drop middle.old) (new.drop middle.new)
    | none => replacing old new

/-- A script between two lists that are cut at most so many times in a row. -/
def cutting [DecidableEq α] : (cuts : Nat) → (old new : List α) → Script α
  | 0 => replacing
  | cuts + 1 => sharing (halving (cutting cuts))

/-- The script between two lists, with removals before additions. Each cut leaves shorter lists. -/
def between [DecidableEq α] (old new : List α) : Script α :=
  settle (cutting (old.length + new.length) old new)

end Script

/-- The position behind a script that starts at a position. -/
def Position.advance (position : Position) (script : Script α) : Position :=
  ⟨position.old + script.before.length, position.new + script.after.length⟩

namespace Script

/-- The first list of two scripts in a row. -/
@[simp]
theorem before_append (first second : Script α) :
    before (first ++ second) = before first ++ before second :=
  List.filterMap_append

/-- The second list of two scripts in a row. -/
@[simp]
theorem after_append (first second : Script α) :
    after (first ++ second) = after first ++ after second :=
  List.filterMap_append

/-- What is kept is in the first list. -/
@[simp]
theorem before_keeping (elements : List α) : before (keeping elements) = elements := by
  induction elements <;> simp_all [before, keeping, Change.before?]

/-- What is kept is in the second list. -/
@[simp]
theorem after_keeping (elements : List α) : after (keeping elements) = elements := by
  induction elements <;> simp_all [after, keeping, Change.after?]

/-- The first list of a replacement. -/
@[simp]
theorem before_replacing (old new : List α) : before (replacing old new) = old := by
  simp [before, replacing, List.filterMap_map, Function.comp_def, Change.before?]

/-- The second list of a replacement. -/
@[simp]
theorem after_replacing (old new : List α) : after (replacing old new) = new := by
  simp [after, replacing, List.filterMap_map, Function.comp_def, Change.after?]

/-- The first list of one more change. -/
@[simp]
theorem before_cons (change : Change α) (rest : Script α) :
    before (change :: rest) = change.before?.toList ++ before rest := by
  cases change <;> rfl

/-- The second list of one more change. -/
@[simp]
theorem after_cons (change : Change α) (rest : Script α) :
    after (change :: rest) = change.after?.toList ++ after rest := by
  cases change <;> rfl

/-- Removals do not show in the second list. -/
theorem after_takeWhile_isRemove (script : Script α) :
    after (script.takeWhile Change.isRemove) = [] := by
  induction script with
  | nil => rfl
  | cons change rest ih =>
    cases change with
    | remove element => simpa [List.takeWhile, Change.isRemove, Change.after?] using ih
    | keep element | add element => rfl

/-- The order of removals and additions does not show in the first list. -/
theorem before_settle (script : Script α) : before (settle script) = before script := by
  fun_induction settle script with
  | case1 => rfl
  | case2 element rest settled ih =>
    rw [before_append, before_cons, before_cons, ← ih]
    simp only [Change.before?, Option.toList_none, List.nil_append]
    rw [← before_append, List.takeWhile_append_dropWhile]
  | case3 change rest _ ih => simp [ih]

/-- The order of removals and additions does not show in the second list. -/
theorem after_settle (script : Script α) : after (settle script) = after script := by
  fun_induction settle script with
  | case1 => rfl
  | case2 element rest settled ih =>
    have parts : after settled = after (settled.dropWhile Change.isRemove) := by
      rw [← List.nil_append (after (settled.dropWhile _)), ← after_takeWhile_isRemove settled,
        ← after_append, List.takeWhile_append_dropWhile]
    rw [after_append, after_takeWhile_isRemove, after_cons, after_cons, ← ih, ← parts]
    rfl
  | case3 change rest _ ih => simp [ih]

/-- What two lists share is in the first one. -/
theorem before_sharing [DecidableEq α] {inner : List α → List α → Script α}
    (h : ∀ old new, before (inner old new) = old) (old new : List α) :
    before (sharing inner old new) = old := by
  simp only [sharing, before_append, before_keeping, h]
  rw [List.append_assoc, List.take_append_drop, List.take_append_drop]

/-- What two lists share is in the second one. -/
theorem after_sharing [DecidableEq α] {inner : List α → List α → Script α}
    (h : ∀ old new, after (inner old new) = new) (old new : List α) :
    after (sharing inner old new) = new := by
  simp only [sharing, after_append, after_keeping, h]
  rw [drop_sharedEnd, take_sharedStart, List.append_assoc, List.take_append_drop,
    List.take_append_drop]

/-- Cutting loses and adds nothing in the first list. -/
theorem before_halving [DecidableEq α] {part : List α → List α → Script α}
    (h : ∀ old new, before (part old new) = old) (old new : List α) :
    before (halving part old new) = old := by
  unfold halving
  split
  · exact before_replacing old new
  · split
    · rw [before_append, h, h, List.take_append_drop]
    · exact before_replacing old new

/-- Cutting loses and adds nothing in the second list. -/
theorem after_halving [DecidableEq α] {part : List α → List α → Script α}
    (h : ∀ old new, after (part old new) = new) (old new : List α) :
    after (halving part old new) = new := by
  unfold halving
  split
  · exact after_replacing old new
  · split
    · rw [after_append, h, h, List.take_append_drop]
    · exact after_replacing old new

/-- A script that is found by cutting takes the first list apart. -/
theorem before_cutting [DecidableEq α] (cuts : Nat) :
    ∀ old new : List α, before (cutting cuts old new) = old := by
  induction cuts with
  | zero => exact before_replacing
  | succ cuts ih => exact before_sharing (before_halving ih)

/-- A script that is found by cutting builds the second list. -/
theorem after_cutting [DecidableEq α] (cuts : Nat) :
    ∀ old new : List α, after (cutting cuts old new) = new := by
  induction cuts with
  | zero => exact after_replacing
  | succ cuts ih => exact after_sharing (after_halving ih)

/-- The script between two lists takes the first one apart. -/
theorem before_between [DecidableEq α] (old new : List α) : before (between old new) = old := by
  rw [between, before_settle, before_cutting]

/-- The script between two lists builds the second one. -/
theorem after_between [DecidableEq α] (old new : List α) : after (between old new) = new := by
  rw [between, after_settle, after_cutting]

end Script

end Graft
