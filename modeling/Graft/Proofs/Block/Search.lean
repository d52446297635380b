import Graft.Proofs.Block.Core
import Mathlib.Data.Nat.Find
import Mathlib.Order.Bounds.Defs

/-!
# Where a block is found

A block is looked for by the bodies of its core, line by line, from the top. What is around the core
makes no difference, and neither do terminators.

* `Block.StandsAt`: the bodies of the core stand on the lines from a position on.
* `Block.find?_eq_some_iff`: a block is found at the first position where it stands.
* `Block.find?_congr`, `Block.find?_of_map_body_core`: bodies alone are looked at.
* `Block.find?_isLeast`: the search is sound, complete and finds the least position; blank lines at
  the ends of the block and its terminators take no part in it.
-/

namespace Graft.Block

variable {block other : Block} {lines core front back : List Line} {line : Line} {i : Nat}

/-- The bodies of the core stand on the lines from `i` on. -/
def StandsAt (block : Block) (lines : List Line) (i : Nat) : Prop :=
  ((lines.drop i).take block.core.length).map Line.body = block.core.map Line.body

instance (block : Block) (lines : List Line) (i : Nat) : Decidable (block.StandsAt lines i) :=
  inferInstanceAs (Decidable (_ = _))

/-- Where a block stands is told by the bodies of the lines. -/
theorem standsAt_congr {lines' : List Line} (h : lines.map Line.body = lines'.map Line.body) :
    block.StandsAt lines i ↔ block.StandsAt lines' i := by
  rw [StandsAt, StandsAt, List.map_take, List.map_drop, h, List.map_take, List.map_drop]

/-- Where a block stands is told by the bodies of its core. -/
theorem standsAt_of_map_body_core (h : other.core.map Line.body = block.core.map Line.body) :
    other.StandsAt lines i ↔ block.StandsAt lines i := by
  have hlength : other.core.length = block.core.length := by simpa using congrArg List.length h
  rw [StandsAt, StandsAt, hlength, h]

/-- The core of a block lies within the lines that it stands on. -/
theorem StandsAt.add_length_le (h : block.StandsAt lines i) (hcore : block.core ≠ []) :
    i + block.core.length ≤ lines.length := by
  have hpos := List.length_pos_iff.2 hcore
  have hlength := congrArg List.length h
  rw [List.length_map, List.length_map, List.length_take, List.length_drop] at hlength
  omega

/-- A block stands where the bodies are the same, one by one. -/
theorem standsAt_iff_getElem? : block.StandsAt lines i ↔
    ∀ k < block.core.length, (lines[i + k]?).map Line.body = (block.core[k]?).map Line.body := by
  rw [StandsAt, List.ext_getElem?_iff]
  refine forall_congr' fun k => ?_
  rw [List.getElem?_map, List.getElem?_map]
  by_cases hk : k < block.core.length
  · rw [List.getElem?_take_of_lt hk, List.getElem?_drop]
    exact (imp_iff_right hk).symm
  · -- behind the core there is nothing to compare
    have hwindow : (((lines.drop i).take block.core.length)[k]?) = none := by
      rw [List.getElem?_eq_none_iff, List.length_take]
      omega
    rw [hwindow, List.getElem?_eq_none (Nat.not_lt.1 hk)]
    exact iff_of_true rfl fun hlt => absurd hlt hk

/-- Where a block stands, each line of its core has a line with its body. -/
theorem StandsAt.exists_line {k : Nat} (h : block.StandsAt lines i)
    (hk : block.core[k]? = some line) :
    ∃ other, lines[i + k]? = some other ∧ other.body = line.body := by
  have hbody := standsAt_iff_getElem?.1 h k (List.getElem?_eq_some_iff.1 hk).1
  rwa [hk, Option.map_some, Option.map_eq_some_iff] at hbody

/-- A block is found at the first position where it stands. -/
theorem find?_eq_some_iff : block.find? lines = some i ↔
    block.core ≠ [] ∧ block.StandsAt lines i ∧ ∀ j < i, ¬block.StandsAt lines j := by
  by_cases hcore : block.core = []
  · simp [find?, hcore]
  · have hempty : block.core.isEmpty = false := by simpa using hcore
    have hwindow (j : Nat) : startWith (lines.drop j) block.core ↔ block.StandsAt lines j :=
      startWith_iff
    simp only [find?, hempty, Bool.false_eq_true, if_false, List.find?_range_eq_some,
      List.mem_range, Bool.not_eq_true', ← Bool.not_eq_true, hwindow, ne_eq, hcore,
      not_false_eq_true, true_and]
    constructor
    · rintro ⟨hi, -, hfirst⟩
      exact ⟨hi, hfirst⟩
    · rintro ⟨hi, hfirst⟩
      -- the scan goes as far down as a window of that length fits, so it gets there
      have hle := hi.add_length_le hcore
      exact ⟨hi, by omega, hfirst⟩

/-- A block is found in lines where it stands somewhere. -/
theorem find?_isSome_iff :
    (block.find? lines).isSome ↔ block.core ≠ [] ∧ ∃ i, block.StandsAt lines i := by
  rw [Option.isSome_iff_exists]
  constructor
  · rintro ⟨i, hi⟩
    obtain ⟨hcore, hstands, -⟩ := find?_eq_some_iff.1 hi
    exact ⟨hcore, i, hstands⟩
  · rintro ⟨hcore, hexists⟩
    exact ⟨Nat.find hexists, find?_eq_some_iff.2
      ⟨hcore, Nat.find_spec hexists, fun _ hj => Nat.find_min hexists hj⟩⟩

/-- A block is found at the same place of lines with the same bodies. -/
theorem find?_congr {lines' : List Line} (block : Block)
    (h : lines.map Line.body = lines'.map Line.body) : block.find? lines = block.find? lines' := by
  ext i
  simp only [find?_eq_some_iff, standsAt_congr h]

/-- Blocks whose cores have the same bodies are found at the same place. -/
theorem find?_of_map_body_core (h : other.core.map Line.body = block.core.map Line.body)
    (lines : List Line) : other.find? lines = block.find? lines := by
  have hcore : other.core ≠ [] ↔ block.core ≠ [] := by
    rw [Ne, Ne, ← List.map_eq_nil_iff (f := Line.body), h, List.map_eq_nil_iff]
  ext i
  rw [find?_eq_some_iff, find?_eq_some_iff, hcore]
  simp only [standsAt_of_map_body_core h]

/-! ## Line by line -/

/-- There is a line for each of the wanted ones from `i` on, and it has the same body. -/
def AgreesAt (wanted lines : List Line) (i : Nat) : Prop :=
  i + wanted.length ≤ lines.length ∧
    ∀ (k : Nat) (_ : k < wanted.length) (_ : i + k < lines.length),
      Line.body lines[i + k] = Line.body wanted[k]

theorem standsAt_iff_agreesAt (hcore : block.core ≠ []) :
    block.StandsAt lines i ↔ AgreesAt block.core lines i := by
  constructor
  · intro h
    refine ⟨h.add_length_le hcore, fun k hk hlt => ?_⟩
    obtain ⟨line, hline, hbody⟩ := h.exists_line (List.getElem?_eq_getElem hk)
    rw [← hbody, ← (List.getElem?_eq_some_iff.1 hline).2]
  · rintro ⟨hlength, hbodies⟩
    rw [standsAt_iff_getElem?]
    intro k hk
    rw [List.getElem?_eq_getElem hk, List.getElem?_eq_getElem (by omega : i + k < lines.length),
      Option.map_some, Option.map_some, hbodies k hk]

/-- A block is found at the least position at which the lines agree with its core. -/
theorem find?_eq_some_iff_isLeast (hcore : block.IsCore core) :
    block.find? lines = some i ↔ core ≠ [] ∧ IsLeast {i | AgreesAt core lines i} i := by
  obtain rfl := isCore_iff.1 hcore
  rw [find?_eq_some_iff]
  refine and_congr_right fun hne => ?_
  simp only [standsAt_iff_agreesAt hne]
  refine and_congr_right fun _ => ⟨fun hfirst j hj => ?_, fun hleast j hlt hj => ?_⟩
  · exact Nat.not_lt.1 fun hlt => hfirst j hlt hj
  · exact Nat.not_lt.2 (hleast hj) hlt

/-- A block is found nowhere if its core is empty, or if the lines agree with it nowhere. -/
theorem find?_eq_none_iff (hcore : block.IsCore core) :
    block.find? lines = none ↔ core = [] ∨ ∀ i, ¬AgreesAt core lines i := by
  obtain rfl := isCore_iff.1 hcore
  rw [← Option.not_isSome_iff_eq_none, find?_isSome_iff, not_and_or, not_not, not_exists]
  -- an empty core agrees with the lines everywhere, so that the two cases are kept apart
  refine or_congr_right' fun hne => ?_
  simp only [standsAt_iff_agreesAt hne]

/-- Blank lines at the ends of a block make no difference to where it is found. -/
theorem find?_append_blank (hfront : ∀ line ∈ front, line.isBlank)
    (hback : ∀ line ∈ back, line.isBlank) (hother : other.lines = front ++ block.lines ++ back) :
    other.find? lines = block.find? lines := by
  obtain rfl : other = ⟨front ++ block.lines ++ back⟩ := by rw [← hother]
  exact find?_of_map_body_core (congrArg _ (core_append_blank hfront hback)) lines

/-- Carriage returns and newlines at the ends of its lines make no difference to where a block is
found. -/
theorem find?_withEnding_crlf (block : Block) (lines : List Line) :
    (block.withEnding .crlf).find? lines = block.find? lines := by
  refine find?_of_map_body_core ?_ lines
  rw [core_withEnding_crlf, List.map_map]
  exact List.map_congr_left fun line _ => line.body_withEnding_crlf

/-- A block has one core, and is found at the least position from which on there is a line for each
line of it, with the same body; a block with an empty core is found nowhere. Blank lines at the ends
of a block make no difference, nor does it make any that its lines end in a carriage return and a
newline. -/
theorem find?_isLeast (block : Block) (lines : List Line) :
    (∃! core, block.IsCore core) ∧
      (∀ core, block.IsCore core →
        (∀ i, block.find? lines = some i ↔ core ≠ [] ∧ IsLeast {i | AgreesAt core lines i} i) ∧
        (block.find? lines = none ↔ core = [] ∨ ∀ i, ¬AgreesAt core lines i)) ∧
      (∀ (other : Block) (front back : List Line), (∀ line ∈ front, line.isBlank) →
        (∀ line ∈ back, line.isBlank) →
        other.lines = front ++ block.lines ++ back ∨ block.lines = front ++ other.lines ++ back →
          other.find? lines = block.find? lines) ∧
      (block.withEnding .crlf).find? lines = block.find? lines := by
  refine ⟨⟨block.core, isCore_iff.2 rfl, fun core hcore => isCore_iff.1 hcore⟩,
    fun core hcore => ⟨fun i => find?_eq_some_iff_isLeast hcore, find?_eq_none_iff hcore⟩,
    fun other front back hfront hback hlines => ?_, find?_withEnding_crlf block lines⟩
  -- lines are added or taken away, and either block is the other one with more around it
  rcases hlines with hadded | hremoved
  · exact find?_append_blank hfront hback hadded
  · exact (find?_append_blank hfront hback hremoved).symm

/-- A core with a blank line inside, the start of which stands further up. -/
theorem find?_isLeast_of_padded :
    let core : List Line := [['a', '\n'], ['\n'], ['b']]
    let block : Block := ⟨[['\n']] ++ core ++ [[' ', '\n']]⟩
    let lines : List Line := [['a', '\n'], ['\n'], ['a', '\r', '\n'], ['\r', '\n'], ['b', '\n']]
    block.IsCore core ∧ IsLeast {i | AgreesAt core lines i} 2 ∧
      ((∀ line ∈ [['\n']], Line.isBlank line) ∧ (∀ line ∈ [[' ', '\n']], Line.isBlank line) ∧
        block.lines = [['\n']] ++ core ++ [[' ', '\n']]) ∧
      (⟨core⟩ : Block).find? lines = some 2 := by
  intro core block lines
  have hcore : block.IsCore core := isCore_iff.2 (by decide)
  have hfront : ∀ line ∈ [['\n']], Line.isBlank line := by decide
  have hback : ∀ line ∈ [[' ', '\n']], Line.isBlank line := by decide
  have hfind : block.find? lines = some 2 := by decide
  obtain ⟨-, hleast, hpadded, -⟩ := find?_isLeast block lines
  refine ⟨hcore, (((hleast core hcore).1 2).1 hfind).2, ⟨hfront, hback, rfl⟩, ?_⟩
  rw [hpadded ⟨core⟩ _ _ hfront hback (.inr rfl), hfind]

end Graft.Block
