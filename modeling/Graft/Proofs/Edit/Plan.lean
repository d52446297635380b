import Graft.Edit
import Graft.Proofs.Text.Lines
import Mathlib.Data.Finset.Card
import Mathlib.Data.Finset.Filter
import Mathlib.Data.Finset.Range
import Mathlib.Order.Bounds.Defs

/-!
# What a planned insertion does to a text

* `Pattern.locateAll_eq_cons`: the first position found is the least at which every condition holds.
* `Edit.isCut_splice`: lines with a block put among them are the lines of the text they make up.
* `Edit.plan_isSplice`: an insertion puts the lines of the block into the text, after the lines
  before it, and the text afterwards is cut into the planned lines.
-/

namespace Graft

namespace Pattern

variable {pattern : Pattern} {lines : List Line} {anchor : Nat} {rest : List Nat}

theorem matchesAt_iff (hne : pattern.conditions ≠ []) {index : Nat} :
    pattern.matchesAt lines index ↔ ∀ c ∈ pattern.conditions, c.holdsAt lines index := by
  have hempty : pattern.isEmpty = false := by simpa [isEmpty] using hne
  simp [matchesAt, hempty]

theorem conditions_ne_nil (h : pattern.locateAll lines = anchor :: rest) :
    pattern.conditions ≠ [] := by
  intro hnil
  have hmem : anchor ∈ pattern.locateAll lines := h ▸ List.mem_cons_self
  simp [locateAll, matchesAt, isEmpty, hnil] at hmem

theorem mem_locateAll (hne : pattern.conditions ≠ []) {index : Nat} :
    index ∈ pattern.locateAll lines ↔
      index < lines.length ∧ ∀ c ∈ pattern.conditions, c.holdsAt lines index := by
  rw [locateAll, List.mem_filter, List.mem_range, matchesAt_iff hne]

/-- Positions are found in the order of the lines. -/
theorem pairwise_locateAll (pattern : Pattern) (lines : List Line) :
    (pattern.locateAll lines).Pairwise (· < ·) :=
  List.pairwise_lt_range.filter _

/-- The first position found is the least at which every condition holds. -/
theorem locateAll_eq_cons (h : pattern.locateAll lines = anchor :: rest) :
    IsLeast {i | i < lines.length ∧ ∀ c ∈ pattern.conditions, c.holdsAt lines i} anchor := by
  have hne := conditions_ne_nil h
  constructor
  · exact (mem_locateAll hne).1 (h ▸ List.mem_cons_self)
  · intro index hindex
    have hmem : index ∈ anchor :: rest := h ▸ (mem_locateAll hne).2 hindex
    have hsorted : (anchor :: rest).Pairwise (· < ·) := h ▸ pairwise_locateAll pattern lines
    rcases List.mem_cons.1 hmem with rfl | hrest
    · exact Nat.le_refl _
    · exact Nat.le_of_lt (List.rel_of_pairwise_cons hsorted hrest)

/-- As many positions are found as there are lines at which every condition holds. -/
theorem length_locateAll (hne : pattern.conditions ≠ []) :
    (pattern.locateAll lines).length =
      ((Finset.range lines.length).filter fun i =>
        ∀ c ∈ pattern.conditions, c.holdsAt lines i).card := by
  have hfilter : pattern.locateAll lines = (List.range lines.length).filter
      fun i => ∀ c ∈ pattern.conditions, c.holdsAt lines i := by
    refine List.filter_congr fun i _ => ?_
    rw [Bool.eq_iff_iff, matchesAt_iff hne, decide_eq_true_eq]
  rw [hfilter]
  rfl

end Pattern

namespace Block

variable {line : Line}

theorem isProper_of_mem_ofText {text : Text} (h : line ∈ (ofText text).lines) :
    line.IsProper ∧ line.isTerminated := by
  obtain ⟨piece, hpiece, rfl⟩ := List.mem_map.1 h
  have hproper := (Text.isCut_lines text).isProper piece hpiece
  exact ⟨Line.isProper_terminate hproper .lf, Line.isTerminated_terminate piece .lf⟩

/-- The lines of a block as they are written where lines end in `ending`. -/
theorem lines_withEnding_ofText (text : Text) (ending : LineEnding) :
    ((ofText text).withEnding ending).lines =
      (ofText text).lines.map fun line => line.body ++ ending.chars := by
  rw [withEnding]
  refine List.map_congr_left fun line hline => ?_
  rw [Line.withEnding_of_isTerminated (isProper_of_mem_ofText hline).2]

theorem isProper_of_mem_withEnding {text : Text} {ending : LineEnding}
    (h : line ∈ ((ofText text).withEnding ending).lines) : line.IsProper ∧ line.isTerminated := by
  rw [lines_withEnding_ofText] at h
  obtain ⟨old, hold, rfl⟩ := List.mem_map.1 h
  obtain ⟨hproper, hterm⟩ := isProper_of_mem_ofText hold
  exact ⟨Line.isProper_append_chars (hproper.newline_not_mem_body hterm) ending,
    Line.isTerminated_append_chars _ ending⟩

theorem lines_ne_nil_of_core {block : Block} (h : block.core ≠ []) : block.lines ≠ [] := by
  intro hnil
  simp [core, hnil] at h

end Block

namespace Edit

variable {lines block : List Line} {ending : LineEnding} {index : Nat}

/-- What has to go between a text and a block put at `index`: the last line gets an ending when it
has none and the block comes after it. -/
def gap (text : Text) (ending : LineEnding) (index : Nat) : Text :=
  if index = text.lines.length ∧ text.getLast? ≠ some '\n' then ending.chars else []

theorem base_of_lt (h : index < lines.length) : base lines ending index = lines := by
  rw [base, if_neg (Nat.ne_of_lt h)]

theorem base_length (front : List Line) (last : Line) :
    base (front ++ [last]) ending (front ++ [last]).length =
      front ++ [last.terminate ending] := by
  simp [base]

/-- All lines that a block is put after are terminated. -/
theorem isProper_of_mem_take_base (hcut : IsCut lines) (hindex : index ≤ lines.length) {line : Line}
    (h : line ∈ (base lines ending index).take index) : line.IsProper ∧ line.isTerminated := by
  rcases Nat.lt_or_eq_of_le hindex with hlt | rfl
  · rw [base_of_lt hlt] at h
    exact ⟨hcut.isProper line (List.mem_of_mem_take h), hcut.isTerminated_of_mem_take hlt h⟩
  · -- behind the last line, which is the only one that may have lacked a terminator
    rcases List.eq_nil_or_concat lines with rfl | ⟨front, last, rfl⟩
    · cases h
    · rw [List.concat_eq_append, base_length] at h
      rcases List.mem_append.1 (List.mem_of_mem_take h) with hfront | hlast
      · refine ⟨hcut.isProper line (by simp [hfront]), hcut.isTerminated line ?_⟩
        rwa [List.concat_eq_append, List.dropLast_concat]
      · rw [List.mem_singleton.1 hlast]
        have hproper := hcut.isProper last (by simp)
        exact ⟨Line.isProper_terminate hproper ending, Line.isTerminated_terminate last ending⟩

theorem drop_base (hindex : index ≤ lines.length) :
    (base lines ending index).drop index = lines.drop index := by
  rcases Nat.lt_or_eq_of_le hindex with hlt | rfl
  · rw [base_of_lt hlt]
  · rw [List.drop_length, List.drop_eq_nil_of_le (Nat.le_of_eq (length_base _ _ _))]

/-- Lines with a block put among them are the lines of the text that they make up. -/
theorem isCut_splice (ending : LineEnding) (hcut : IsCut lines) (hindex : index ≤ lines.length)
    (hblock : ∀ line ∈ block, line.IsProper ∧ line.isTerminated) :
    IsCut ((base lines ending index).take index ++ block ++
      (base lines ending index).drop index) := by
  have hfront : ∀ line ∈ (base lines ending index).take index ++ block,
      line.IsProper ∧ line.isTerminated := by
    intro line hline
    exact (List.mem_append.1 hline).elim (isProper_of_mem_take_base hcut hindex) (hblock line)
  rw [drop_base hindex]
  exact IsCut.append (fun line hline => (hfront line hline).1)
    (fun line hline => (hfront line hline).2) (hcut.drop index)

/-- The text before a block is the text of the lines before it, and what has to go between. -/
theorem flatten_take_base (text : Text) (hne : text.lines ≠ [])
    (hindex : index ≤ text.lines.length) :
    ((base text.lines ending index).take index).flatten =
      (text.lines.take index).flatten ++ gap text ending index := by
  rcases Nat.lt_or_eq_of_le hindex with hlt | rfl
  · rw [base_of_lt hlt, gap, if_neg (fun h => Nat.ne_of_lt hlt h.1), List.append_nil]
  · obtain ⟨front, last, hlines⟩ := (List.eq_nil_or_concat text.lines).resolve_left hne
    rw [List.concat_eq_append] at hlines
    have hterm : text.getLast? = some '\n' ↔ last.isTerminated := by
      rw [Text.getLast?_of_lines hlines, Line.isTerminated, decide_eq_true_eq]
    rw [List.take_of_length_le (Nat.le_of_eq (length_base _ _ _)), List.take_length, gap, hlines,
      base_length, Line.terminate]
    by_cases h : last.isTerminated
    · simp [h, hterm.2 h]
    · simp [h, mt hterm.1 h]

end Edit

/-- An insertion of the block of an edit into a text, line by line and as a text. -/
structure Insertion.IsSplice (s : Insertion) (edit : Edit) (text : Text) : Prop where
  /-- The anchor is the first line at which every condition holds. -/
  isLeast_anchor :
    IsLeast {i | i < text.lines.length ∧ ∀ c ∈ edit.pattern.conditions, c.holdsAt text.lines i}
      s.anchor
  /-- Every line at which all conditions hold is counted. -/
  matchCount_eq : s.matchCount =
    ((Finset.range text.lines.length).filter fun i =>
      ∀ c ∈ edit.pattern.conditions, c.holdsAt text.lines i).card
  /-- The block goes right above or right below the anchor. -/
  index_eq : s.index =
    match edit.placement with
    | .before => s.anchor
    | .after => s.anchor + 1
  /-- The text is cut in two and the lines of the block stand between the parts, all with the ending
  of the text. -/
  text_eq : ∃ u v, text = u ++ v ∧ u = (text.lines.take s.index).flatten ∧
    s.text = u ++ Edit.gap text (.detect text) s.index ++
      (edit.block.lines.map fun line => line.body ++ (LineEnding.detect text).chars).flatten ++ v
  /-- The text afterwards is cut into the planned lines. -/
  lines_text : Text.lines s.text = s.lines
  /-- No line is lost or joined to another. -/
  length_lines : s.lines.length = text.lines.length + s.inserted
  /-- Every line of the block is counted. -/
  inserted_eq : s.inserted = edit.block.lines.length
  /-- The block stands at the index. -/
  take_drop_lines : (s.lines.drop s.index).take s.inserted =
    edit.block.lines.map fun line => line.body ++ (LineEnding.detect text).chars
  /-- The reported line is the first of the block. -/
  getElem?_lineNumber : ∃ first ∈ edit.block.lines.head?,
    (Text.lines s.text)[s.lineNumber - 1]? = some (first.body ++ (LineEnding.detect text).chars)

namespace Edit

variable {edit : Edit} {path : Path} {text blockText : Text}

/-- The insertion for the first position found puts the lines of the block into the text. -/
theorem isSplice_of_insertionAt {s : Insertion} {anchor : Nat} {rest : List Nat}
    (hblock : edit.block = .ofText blockText) (hcore : edit.block.core ≠ [])
    (hfound : edit.pattern.locateAll text.lines = anchor :: rest)
    (hs : edit.insertionAt (.ofText path text) (rest.length + 1) anchor = .ok s) :
    s.IsSplice edit text := by
  have hlines : (Snapshot.ofText path text).lines = text.lines := rfl
  have hending : (Snapshot.ofText path text).ending = .detect text := rfl
  have hleast := Pattern.locateAll_eq_cons hfound
  have hanchor : anchor < text.lines.length := hleast.1.1
  have hne : text.lines ≠ [] := List.ne_nil_of_length_pos (Nat.zero_lt_of_lt hanchor)
  have hindex : edit.placement.index anchor ≤ text.lines.length :=
    Nat.le_trans (edit.placement.index_le anchor) hanchor
  rw [edit.insertionAt_of_lt _ hanchor, hlines, hending] at hs
  obtain rfl := Except.ok.inj hs
  -- the lines of the block are written with the ending of the text, each a line of its own
  have hwritten : (edit.block.withEnding (.detect text)).lines =
      edit.block.lines.map fun line => line.body ++ (LineEnding.detect text).chars := by
    rw [hblock, Block.lines_withEnding_ofText]
  have hproper : ∀ line ∈ (edit.block.withEnding (.detect text)).lines,
      line.IsProper ∧ line.isTerminated := by
    rw [hblock]
    exact fun line => Block.isProper_of_mem_withEnding
  have hcut := isCut_splice (.detect text) (Text.isCut_lines text) hindex hproper
  -- as many lines stand before the block as the index says
  have htake : ((base text.lines (.detect text) (edit.placement.index anchor)).take
      (edit.placement.index anchor)).length = edit.placement.index anchor := by
    rw [List.length_take, length_base, Nat.min_eq_left hindex]
  obtain ⟨first, others, hfirst⟩ := List.exists_cons_of_ne_nil (Block.lines_ne_nil_of_core hcore)
  refine
    { isLeast_anchor := hleast
      matchCount_eq := ?_
      index_eq := by cases edit.placement <;> rfl
      text_eq := ⟨_, (text.lines.drop (edit.placement.index anchor)).flatten, ?_, rfl, ?_⟩
      lines_text := Text.lines_flatten hcut
      length_lines := ?_
      inserted_eq := by rw [hwritten, List.length_map]
      take_drop_lines := ?_
      getElem?_lineNumber := ⟨first, by simp [hfirst], ?_⟩ }
  · rw [← Pattern.length_locateAll (Pattern.conditions_ne_nil hfound), hfound, List.length_cons]
  · rw [← List.flatten_append, List.take_append_drop, Text.flatten_lines]
  · rw [Insertion.text, List.flatten_append, List.flatten_append, drop_base hindex,
      flatten_take_base text hne hindex, hwritten]
  · simp only [List.length_append, htake, List.length_drop, length_base]
    omega
  · rw [List.append_assoc, List.drop_left' htake, List.take_left, hwritten]
  · -- the text afterwards has the planned lines
    have hafter := Text.lines_flatten hcut
    rw [Insertion.text, hafter, Insertion.lineNumber, Nat.add_sub_cancel, List.append_assoc,
      List.getElem?_append_right (Nat.le_of_eq htake), htake, Nat.sub_self, hwritten, hfirst]
    rfl

/-- A planned insertion puts the lines of the block at a position among the lines of the text. -/
theorem lines_of_plan {s : Insertion} (hplan : edit.plan (.ofText path text) = .ok (.insert s)) :
    text.lines ≠ [] ∧ s.index ≤ text.lines.length ∧
      s.lines = (base text.lines (.detect text) s.index).take s.index ++
        (edit.block.withEnding (.detect text)).lines ++
        (base text.lines (.detect text) s.index).drop s.index := by
  obtain ⟨-, -, anchor, rest, hfound, hs⟩ := plan_eq_insert_iff.1 hplan
  have hanchor : anchor < text.lines.length := (Pattern.locateAll_eq_cons hfound).1.1
  rw [edit.insertionAt_of_lt _ hanchor] at hs
  obtain rfl := Except.ok.inj hs
  exact ⟨List.ne_nil_of_length_pos (Nat.zero_lt_of_lt hanchor),
    Nat.le_trans (edit.placement.index_le anchor) hanchor, rfl⟩

/-- The planned lines are the lines of the text that they make up. -/
theorem lines_text_of_plan {s : Insertion} (hblock : edit.block = .ofText blockText)
    (hplan : edit.plan (.ofText path text) = .ok (.insert s)) : Text.lines s.text = s.lines := by
  obtain ⟨-, hindex, hlines⟩ := lines_of_plan hplan
  rw [hblock] at hlines
  rw [Insertion.text, hlines]
  exact Text.lines_flatten (isCut_splice _ (Text.isCut_lines text) hindex
    fun line => Block.isProper_of_mem_withEnding)

/-- Planning always comes to a result, and an insertion that is planned puts the lines of the block
into the text. -/
theorem plan_isSplice (pattern : Pattern) (placement : Placement) (skip : Bool) (path : Path)
    (text blockText : Text) :
    let edit : Edit := ⟨pattern, .ofText blockText, placement, skip⟩
    (∀ e, edit.attempt (.ofText path text) ≠ .error e) ∧
      ∀ s, edit.plan (.ofText path text) = .ok (.insert s) → s.IsSplice edit text := by
  intro edit
  refine ⟨edit.attempt_ne_error _, fun s hplan => ?_⟩
  obtain ⟨hcore, -, anchor, rest, hfound, hs⟩ := plan_eq_insert_iff.1 hplan
  exact isSplice_of_insertionAt rfl hcore hfound hs

/-- Behind an unterminated last line the block starts a line of its own. -/
theorem isSplice_behind_unterminated :
    let edit : Edit := ⟨⟨[⟨0, .equals ['b']⟩]⟩, .ofText ['x', '\n', 'y'], .after, true⟩
    let text : Text := ['a', '\r', '\n', 'b']
    let s : Insertion :=
      ⟨1, 2, 1, 2, [['a', '\r', '\n'], ['b', '\r', '\n'], ['x', '\r', '\n'], ['y', '\r', '\n']]⟩
    edit.plan (.ofText "f" text) = .ok (.insert s) ∧ s.IsSplice edit text := by
  intro edit text s
  have hplan : edit.plan (.ofText "f" text) = .ok (.insert s) := by decide +kernel
  exact ⟨hplan, (plan_isSplice _ .after true "f" text ['x', '\n', 'y']).2 s hplan⟩

end Edit

end Graft
