import Graft.Proofs.Block.Search

/-!
# Blocks apart from an insertion

Lines that are put in move those below them down and leave those above them where they are. So a
block that stands wholly above the insertion or wholly below it still stands in one piece. New lines
may make up another such piece, alone or with the lines around them, and then it is found there if
that is further up.

* `getElem?_splice_of_lt`, `getElem?_splice_add`: where the lines are afterwards.
* `Block.standsAt_splice_of_le`, `Block.standsAt_splice_add`: where a block stands afterwards.
* `Block.find?_insertLines`: a block that is found is found again, unless it is cut apart.
-/

namespace Graft

variable {lines new : List Line} {position index : Nat}

/-- There is a position for new lines before each line and after the last one. -/
theorem insertLines_of_le (h : position ≤ lines.length) :
    insertLines lines position new = .ok (lines.take position ++ new ++ lines.drop position) := by
  rw [insertLines, if_pos h]

/-- The lines above the new ones are where they were. -/
theorem getElem?_splice_of_lt (h : position ≤ lines.length) (hindex : index < position) :
    (lines.take position ++ new ++ lines.drop position)[index]? = lines[index]? := by
  have hlt : index < (lines.take position).length := by
    rw [List.length_take]
    omega
  rw [List.append_assoc, List.getElem?_append_left hlt, List.getElem?_take_of_lt hindex]

/-- The other lines are further down by as many lines as are new. -/
theorem getElem?_splice_add (h : position ≤ lines.length) (hindex : position ≤ index) :
    (lines.take position ++ new ++ lines.drop position)[index + new.length]? = lines[index]? := by
  have hlength : (lines.take position ++ new).length = position + new.length := by
    rw [List.length_append, List.length_take, Nat.min_eq_left h]
  -- counted from the end of the new lines, and from where the old ones were cut
  have hrest : position + (index + new.length - (position + new.length)) = index := by omega
  rw [List.getElem?_append_right (by omega), hlength, List.getElem?_drop, hrest]

namespace Block

variable {block : Block} {i : Nat}

/-- A block stands above the new lines where it stood before. -/
theorem standsAt_splice_of_le (h : position ≤ lines.length)
    (hi : i + block.core.length ≤ position) :
    block.StandsAt (lines.take position ++ new ++ lines.drop position) i ↔
      block.StandsAt lines i := by
  rw [standsAt_iff_getElem?, standsAt_iff_getElem?]
  refine forall₂_congr fun k hk => ?_
  rw [getElem?_splice_of_lt h (by omega)]

/-- A block stands below the new lines where it stood before from the position on. -/
theorem standsAt_splice_add (h : position ≤ lines.length) (hi : position ≤ i) :
    block.StandsAt (lines.take position ++ new ++ lines.drop position) (i + new.length) ↔
      block.StandsAt lines i := by
  rw [standsAt_iff_getElem?, standsAt_iff_getElem?]
  refine forall₂_congr fun k _ => ?_
  rw [Nat.add_right_comm, getElem?_splice_add h (by omega)]

/-- The core stands in one piece above the line at `index`, or from there on. -/
def IsSpared (block : Block) (lines : List Line) (index : Nat) : Prop :=
  ∃ i, block.StandsAt lines i ∧ (index ≤ i ∨ i + block.core.length ≤ index)

/-- A block that is spared stands somewhere after the insertion too. -/
theorem IsSpared.exists_standsAt (h : block.IsSpared lines index) (hindex : index ≤ lines.length)
    (new : List Line) :
    ∃ i, block.StandsAt (lines.take index ++ new ++ lines.drop index) i := by
  obtain ⟨i, hi, hbelow | habove⟩ := h
  · exact ⟨i + new.length, (standsAt_splice_add hindex hbelow).2 hi⟩
  · exact ⟨i, (standsAt_splice_of_le hindex habove).2 hi⟩

/-- A block that is found above the position is the first one there afterwards, too. -/
theorem find?_splice_of_le (h : position ≤ lines.length) (hfind : block.find? lines = some i)
    (hi : i + block.core.length ≤ position) :
    block.find? (lines.take position ++ new ++ lines.drop position) = some i := by
  obtain ⟨hcore, hstands, hfirst⟩ := find?_eq_some_iff.1 hfind
  refine find?_eq_some_iff.2 ⟨hcore, (standsAt_splice_of_le h hi).2 hstands, fun j hj => ?_⟩
  -- a window that starts further up ends above the position as well
  rw [standsAt_splice_of_le h (by omega)]
  exact hfirst j hj

/-- A block that is found from the position on moves down with the lines, or is found where some of
the new lines are part of it. -/
theorem find?_splice_add (h : position ≤ lines.length) (hfind : block.find? lines = some i)
    (hi : position ≤ i) :
    ∃ j ≤ i + new.length,
      block.find? (lines.take position ++ new ++ lines.drop position) = some j ∧
      (j = i + new.length ∨ j < position + new.length ∧ position < j + block.core.length) := by
  obtain ⟨hcore, hstands, hfirst⟩ := find?_eq_some_iff.1 hfind
  have hmoved : block.StandsAt (lines.take position ++ new ++ lines.drop position)
      (i + new.length) := (standsAt_splice_add h hi).2 hstands
  obtain ⟨j, hj⟩ := Option.isSome_iff_exists.1 (find?_isSome_iff.2 ⟨hcore, _, hmoved⟩)
  obtain ⟨-, hstandsj, hfirstj⟩ := find?_eq_some_iff.1 hj
  have hle : j ≤ i + new.length := Nat.not_lt.1 fun hlt => hfirstj _ hlt hmoved
  refine ⟨j, hle, hj, ?_⟩
  by_cases habove : j + block.core.length ≤ position
  · -- all of it above the position, it would have been found there before
    have hpos := List.length_pos_iff.2 hcore
    exact absurd ((standsAt_splice_of_le h habove).1 hstandsj) (hfirst j (by omega))
  by_cases hbelow : position + new.length ≤ j
  · -- all of it below the new lines, it was further up by as many lines
    obtain ⟨k, rfl⟩ : ∃ k, j = k + new.length := ⟨j - new.length, by omega⟩
    have hik : i ≤ k := Nat.not_lt.1 fun hlt =>
      hfirst k hlt ((standsAt_splice_add h (by omega)).1 hstandsj)
    exact .inl (by omega)
  · exact .inr ⟨by omega, by omega⟩

/-- A block that is found wholly above an insertion is found at the same place afterwards. One that
is found wholly below it is found at the place that it moved to, or further up where new lines are
part of it. -/
theorem find?_insertLines (block : Block) (new : List Line) (hposition : position ≤ lines.length)
    (hfind : block.find? lines = some i) :
    ∃ lines', insertLines lines position new = .ok lines' ∧
      (i + block.core.length ≤ position → block.find? lines' = some i) ∧
      (position ≤ i → ∃ j ≤ i + new.length, block.find? lines' = some j ∧
        (j = i + new.length ∨ j < position + new.length ∧ position < j + block.core.length)) :=
  ⟨_, insertLines_of_le hposition, find?_splice_of_le hposition hfind,
    find?_splice_add hposition hfind⟩

/-- Right below the block, and where the new line makes up the block with the line above it. -/
theorem find?_insertLines_of_last_line :
    let block : Block := ⟨[['a', '\n'], ['b', '\n']]⟩
    let lines : List Line := [['a', '\n'], ['x', '\n'], ['a', '\n'], ['b', '\n']]
    (1 ≤ lines.length ∧ 4 ≤ lines.length ∧ block.find? lines = some 2) ∧
      (∃ lines', insertLines lines 4 [['b', '\n']] = .ok lines' ∧ block.find? lines' = some 2) ∧
      ∃ lines', insertLines lines 1 [['b', '\n']] = .ok lines' ∧
        ∃ j ≤ 3, block.find? lines' = some j ∧ (j = 3 ∨ j < 2 ∧ 1 < j + 2) := by
  intro block lines
  have hfind : block.find? lines = some 2 := by decide
  have hfirst : 1 ≤ lines.length := by decide
  have hlast : 4 ≤ lines.length := by decide
  refine ⟨⟨hfirst, hlast, hfind⟩, ?_, ?_⟩
  · obtain ⟨lines', hinsert, habove, -⟩ := find?_insertLines block [['b', '\n']] hlast hfind
    exact ⟨lines', hinsert, habove (by decide)⟩
  · obtain ⟨lines', hinsert, -, hbelow⟩ := find?_insertLines block [['b', '\n']] hfirst hfind
    exact ⟨lines', hinsert, hbelow (by decide)⟩

/-- A block that is cut apart is found no more. -/
example :
    let block : Block := ⟨[['a', '\n'], ['b', '\n']]⟩
    block.find? [['a', '\n'], ['b', '\n']] = some 0 ∧
      block.find? [['a', '\n'], ['x', '\n'], ['b', '\n']] = none := by
  decide

end Block

end Graft
