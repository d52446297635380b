import Graft.Block
import Graft.Proofs.Text.Ending

/-!
# The core of a block

What tells a block is what is left of it without the blank lines at its start and at its end. Blank
lines inside stay.

* `Block.isCore_iff`: a block has one core, which is found by dropping blank lines from both ends.
* `Block.core_append_blank`: blank lines at the ends of a block take no part in its core.
* `Block.core_withEnding_crlf`: with other endings, the core has the same lines with these endings.
-/

namespace Graft.Block

variable {block : Block} {core front mid back : List Line} {line : Line}

/-- The core and the blank lines after it. -/
theorem core_append (block : Block) :
    block.core ++ ((block.lines.dropWhile Line.isBlank).reverse.takeWhile Line.isBlank).reverse =
      block.lines.dropWhile Line.isBlank := by
  rw [Block.core, ← List.reverse_append, List.takeWhile_append_dropWhile, List.reverse_reverse]

/-- A block is its core between blank lines. -/
theorem lines_eq_core (block : Block) :
    ∃ front back, block.lines = front ++ block.core ++ back ∧
      (∀ line ∈ front, line.isBlank) ∧ ∀ line ∈ back, line.isBlank := by
  refine ⟨block.lines.takeWhile Line.isBlank,
    ((block.lines.dropWhile Line.isBlank).reverse.takeWhile Line.isBlank).reverse, ?_, ?_, ?_⟩
  · rw [List.append_assoc, core_append, List.takeWhile_append_dropWhile]
  · intro line hline
    exact List.all_eq_true.1 List.all_takeWhile line hline
  · intro line hline
    exact List.all_eq_true.1 List.all_takeWhile line (List.mem_reverse.1 hline)

theorem not_isBlank_of_getLast?_core (h : block.core.getLast? = some line) : ¬line.isBlank := by
  rw [Block.core, List.getLast?_reverse] at h
  have hhead := List.head?_dropWhile_not Line.isBlank
    (block.lines.dropWhile Line.isBlank).reverse
  rw [h] at hhead
  simpa using hhead

theorem not_isBlank_of_head?_core (h : block.core.head? = some line) : ¬line.isBlank := by
  have hhead := List.head?_dropWhile_not Line.isBlank block.lines
  have hfirst : (block.lines.dropWhile Line.isBlank).head? = some line := by
    rw [← core_append, List.head?_append, h]
    rfl
  rw [hfirst] at hhead
  simpa using hhead

theorem core_eq_nil_iff : block.core = [] ↔ ∀ line ∈ block.lines, line.isBlank := by
  obtain ⟨front, back, hlines, hfront, hback⟩ := lines_eq_core block
  constructor
  · intro hcore line hline
    rw [hlines, hcore, List.append_nil] at hline
    exact (List.mem_append.1 hline).elim (hfront line) (hback line)
  · intro hblank
    -- the first line of a core is not blank
    rw [← List.head?_eq_none_iff, Option.eq_none_iff_forall_ne_some]
    intro first hfirst
    refine not_isBlank_of_head?_core hfirst (hblank first ?_)
    rw [hlines]
    simp [List.mem_of_head? hfirst]

/-- A block with a core does not vanish, whatever its lines end in. -/
theorem flatten_withEnding_ne_nil (block : Block) (h : block.core ≠ []) (ending : LineEnding) :
    (block.withEnding ending).lines.flatten ≠ [] := by
  intro hnil
  refine h (core_eq_nil_iff.2 fun line hline => ?_)
  by_cases hempty : line = []
  · rw [hempty]
    rfl
  · have hwritten : line.withEnding ending = [] :=
      List.flatten_eq_nil_iff.1 hnil _ (List.mem_map_of_mem hline)
    exact absurd hwritten (Line.withEnding_ne_nil hempty ending)

/-- Blank lines at the ends of a block take no part in its core. -/
theorem core_append_blank (hfront : ∀ line ∈ front, line.isBlank)
    (hback : ∀ line ∈ back, line.isBlank) :
    (⟨front ++ mid ++ back⟩ : Block).core = (⟨mid⟩ : Block).core := by
  have hstart : (front ++ mid ++ back).dropWhile Line.isBlank =
      (mid ++ back).dropWhile Line.isBlank := by
    rw [List.append_assoc, List.dropWhile_append_of_pos hfront]
  rw [Block.core, Block.core, hstart, List.dropWhile_append]
  split
  next hblank =>
    -- the lines between are blank too, so that nothing is left
    have hback' : back.dropWhile Line.isBlank = [] := List.dropWhile_eq_nil_iff.2 hback
    rw [List.isEmpty_iff.1 hblank, hback']
  next =>
    have hend : ∀ line ∈ back.reverse, line.isBlank :=
      fun line hline => hback line (List.mem_reverse.1 hline)
    rw [List.reverse_append, List.dropWhile_append_of_pos hend]

/-! ## Cores told by their ends -/

/-- The lines around a core are blank, and it starts and ends with lines that are not, if there is
anything in it. -/
structure IsCore (block : Block) (core : List Line) : Prop where
  exists_blank : ∃ front back, block.lines = front ++ core ++ back ∧
    (∀ line ∈ front, line.isBlank) ∧ ∀ line ∈ back, line.isBlank
  head : ∀ line, core.head? = some line → ¬line.isBlank
  last : ∀ line, core.getLast? = some line → ¬line.isBlank

/-- Lines that start and end with lines that are not blank have no blank lines to lose. -/
theorem core_eq_self (hhead : ∀ line, mid.head? = some line → ¬line.isBlank)
    (hlast : ∀ line, mid.getLast? = some line → ¬line.isBlank) : (⟨mid⟩ : Block).core = mid := by
  have hdrop : ∀ lines : List Line, (∀ line, lines.head? = some line → ¬line.isBlank) →
      lines.dropWhile Line.isBlank = lines := by
    intro lines hlines
    cases lines with
    | nil => rfl
    | cons line rest => rw [List.dropWhile_cons_of_neg (hlines line rfl)]
  rw [Block.core, hdrop mid hhead, hdrop mid.reverse (by simpa using hlast), List.reverse_reverse]

/-- A block has one core, which is found by dropping blank lines from both ends. -/
theorem isCore_iff : block.IsCore core ↔ core = block.core := by
  constructor
  · rintro ⟨⟨front, back, hlines, hfront, hback⟩, hhead, hlast⟩
    obtain rfl : block = ⟨front ++ core ++ back⟩ := by rw [← hlines]
    rw [core_append_blank hfront hback, core_eq_self hhead hlast]
  · rintro rfl
    exact ⟨lines_eq_core block, fun _ => not_isBlank_of_head?_core,
      fun _ => not_isBlank_of_getLast?_core⟩

/-- With a carriage return and a newline at their ends, the lines of the core are the same ones. -/
theorem core_withEnding_crlf (block : Block) :
    (block.withEnding .crlf).core = block.core.map (Line.withEnding .crlf) := by
  have hblank : Line.isBlank ∘ Line.withEnding .crlf = Line.isBlank := by
    funext line
    rw [Function.comp_apply, Line.isBlank, Line.body_withEnding_crlf, Line.isBlank]
  rw [Block.core, Block.core, withEnding, List.dropWhile_map, hblank, ← List.map_reverse,
    List.dropWhile_map, hblank, ← List.map_reverse]

end Graft.Block
