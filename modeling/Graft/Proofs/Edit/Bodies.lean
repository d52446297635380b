import Graft.Edit
import Graft.Proofs.Block.Search

/-!
# What an edit sees of lines

Terminators take no part in a search. Conditions, the presence check and the search for a near miss
look at the bodies of lines only, so that lines with the same bodies are all the same to them.

* `Pattern.locateAll_congr`, `Pattern.diagnose_congr`: what is found depends on the bodies of the
  lines only.
* `Edit.sameVerdict_of_bodies`: so does the verdict on a snapshot, the planned lines apart.
* `Edit.plan_withEnding_crlf`: the verdict on a text is that on the text whose terminated lines all
  end in a carriage return and a newline.
-/

namespace Graft

variable {lines lines' : List Line}

/-! ## Searches -/

/-- Lists of lines with the same bodies are of one length. -/
theorem length_eq_of_map_body (h : lines.map Line.body = lines'.map Line.body) :
    lines.length = lines'.length := by
  simpa using congrArg List.length h

/-- Lines with the same bodies pass the same tests. -/
theorem LineTest.passes_congr {line line' : Line} (test : LineTest) (h : line.body = line'.body) :
    test.passes line = test.passes line' := by
  simp only [passes, h]

namespace Condition

/-- A condition asks about the same position, whatever the lines. -/
theorem map_body_line? (c : Condition) (lines : List Line) (index : Nat) :
    (c.line? lines index).map Line.body =
      if (index : Int) + c.offset.toInt < 0 then none
      else (lines.map Line.body)[((index : Int) + c.offset.toInt).toNat]? := by
  rw [line?]
  split
  · rfl
  · rw [List.getElem?_map]

theorem holdsAt_congr (c : Condition) (h : lines.map Line.body = lines'.map Line.body)
    (index : Nat) : c.holdsAt lines index = c.holdsAt lines' index := by
  have hline : (c.line? lines index).map Line.body = (c.line? lines' index).map Line.body := by
    rw [map_body_line?, map_body_line?, h]
  rw [holdsAt, holdsAt]
  -- a line is asked about on both sides, or on neither
  cases hl : c.line? lines index with
  | none =>
    rw [hl, Option.map_none, eq_comm, Option.map_eq_none_iff] at hline
    rw [hline]
  | some line =>
    rw [hl, Option.map_some, eq_comm, Option.map_eq_some_iff] at hline
    obtain ⟨line', hl', hbody⟩ := hline
    rw [hl', Option.any_some, Option.any_some, c.test.passes_congr hbody]

theorem hits_congr (c : Condition) (h : lines.map Line.body = lines'.map Line.body) :
    c.hits lines = c.hits lines' := by
  have hlength : lines.length = lines'.length := length_eq_of_map_body h
  rw [hits, hits, hlength, funext (c.holdsAt_congr h)]

/-- A fold over numbered lines comes to the same on lines with the same bodies, if each of its steps
does. -/
theorem foldl_zipIdx_congr {α : Type} {step : α → Line × Nat → α}
    (hstep : ∀ acc (line line' : Line) index, line.body = line'.body →
      step acc (line, index) = step acc (line', index))
    (h : lines.map Line.body = lines'.map Line.body) (acc : α) (start : Nat) :
    (lines.zipIdx start).foldl step acc = (lines'.zipIdx start).foldl step acc := by
  induction lines generalizing lines' acc start with
  | nil => rw [List.map_eq_nil_iff.1 h.symm]
  | cons line rest ih =>
    cases lines' with
    | nil => simp at h
    | cons line' rest' =>
      obtain ⟨hline, hrest⟩ := List.cons.inj h
      rw [List.zipIdx_cons, List.zipIdx_cons, List.foldl_cons, List.foldl_cons,
        hstep acc line line' start hline, ih hrest]

/-- The nearest line is chosen by bodies and line numbers. -/
theorem nearest?_congr (c : Condition) (h : lines.map Line.body = lines'.map Line.body) :
    c.nearest? lines = c.nearest? lines' := by
  rw [nearest?, nearest?]
  split
  · rfl
  · exact foldl_zipIdx_congr (fun best line line' index hbody => by simp only [hbody]) h none 0

end Condition

namespace Pattern

variable (pattern : Pattern) (h : lines.map Line.body = lines'.map Line.body)

include h

theorem matchesAt_congr (index : Nat) :
    pattern.matchesAt lines index = pattern.matchesAt lines' index :=
  matchesAt_of_holdsAt fun c _ => c.holdsAt_congr h index

/-- A pattern matches at the same positions of lines with the same bodies. -/
theorem locateAll_congr : pattern.locateAll lines = pattern.locateAll lines' := by
  have hlength : lines.length = lines'.length := length_eq_of_map_body h
  rw [locateAll, locateAll, hlength, funext (pattern.matchesAt_congr h)]

/-- A search that fails has the same diagnosis on lines with the same bodies. -/
theorem diagnose_congr : pattern.diagnose lines = pattern.diagnose lines' := by
  simp only [diagnose, Condition.hits_congr _ h, Condition.nearest?_congr _ h]

end Pattern

/-! ## Verdicts -/

namespace Edit

/-- Results of planning that differ in the planned lines at most. -/
inductive SameVerdict : (first second : Except Failure Verdict) → Prop
  /-- The same failure. -/
  | error (e : Failure) : SameVerdict (.error e) (.error e)
  /-- The block is there, from the same line on. -/
  | alreadyPresent (line : Nat) :
    SameVerdict (.ok (.alreadyPresent line)) (.ok (.alreadyPresent line))
  /-- As many lines go in at the same place, for the same anchor among as many. -/
  | insert {s s' : Insertion} (anchor : s.anchor = s'.anchor) (index : s.index = s'.index)
    (matchCount : s.matchCount = s'.matchCount) (inserted : s.inserted = s'.inserted) :
    SameVerdict (.ok (.insert s)) (.ok (.insert s'))

variable {snapshot snapshot' : Snapshot}

/-- The verdict on a snapshot depends on its path and the bodies of its lines only, the planned
lines apart. -/
theorem sameVerdict_of_bodies (edit : Edit) (hpath : snapshot.path = snapshot'.path)
    (h : snapshot.lines.map Line.body = snapshot'.lines.map Line.body) :
    SameVerdict (edit.plan snapshot) (edit.plan snapshot') := by
  have hpresent : edit.present? snapshot = edit.present? snapshot' := by
    rw [present?, present?, edit.block.find?_congr h]
  have hanchors := edit.pattern.locateAll_congr h
  cases hplan : edit.plan snapshot with
  | error e =>
    have herror : edit.plan snapshot' = .error e := by
      rwa [plan_eq_error_iff, hpresent, hanchors, hpath, edit.pattern.diagnose_congr h,
        ← plan_eq_error_iff] at hplan
    rw [herror]
    exact .error e
  | ok verdict =>
    cases verdict with
    | alreadyPresent line =>
      have halready : edit.plan snapshot' = .ok (.alreadyPresent line) := by
        rwa [plan_eq_alreadyPresent_iff, hpresent, ← plan_eq_alreadyPresent_iff] at hplan
      rw [halready]
      exact .alreadyPresent line
    | insert s =>
      obtain ⟨hcore, habsent, anchor, rest, hfound, hs⟩ := plan_eq_insert_iff.1 hplan
      have hfound' := hanchors ▸ hfound
      have hanchor : anchor < snapshot.lines.length :=
        Pattern.lt_length_of_mem_locateAll (hfound ▸ List.mem_cons_self)
      have hanchor' : anchor < snapshot'.lines.length :=
        Pattern.lt_length_of_mem_locateAll (hfound' ▸ List.mem_cons_self)
      rw [edit.insertionAt_of_lt _ hanchor] at hs
      obtain rfl := Except.ok.inj hs
      rw [plan_eq_insert_iff.2 ⟨hcore, hpresent ▸ habsent, anchor, rest, hfound',
        edit.insertionAt_of_lt _ hanchor'⟩]
      -- as many lines go in, whichever ending they are given
      exact .insert rfl rfl rfl (by simp [Block.withEnding])

end Edit

/-! ## Texts with other endings -/

/-- Terminators take no part in matching: a text whose terminated lines are all made to end in a
carriage return and a newline has its patterns, its near misses and its blocks where they were, and
an edit comes to the same verdict on it. -/
theorem Edit.plan_withEnding_crlf (t : Text) :
    (∀ pattern : Pattern,
      pattern.locateAll (t.withEnding .crlf).lines = pattern.locateAll t.lines ∧
        pattern.diagnose (t.withEnding .crlf).lines = pattern.diagnose t.lines) ∧
      (∀ block : Block, block.find? (t.withEnding .crlf).lines = block.find? t.lines) ∧
      ∀ (edit : Edit) (path : Path),
        SameVerdict (edit.plan (.ofText path (t.withEnding .crlf)))
          (edit.plan (.ofText path t)) := by
  have hbodies : (t.withEnding .crlf).lines.map Line.body = t.lines.map Line.body := by
    rw [Text.lines_withEnding, List.map_map]
    exact List.map_congr_left fun line _ => line.body_withEnding_crlf
  refine ⟨fun pattern => ⟨?_, ?_⟩, fun block => ?_, fun edit path => ?_⟩
  · exact pattern.locateAll_congr hbodies
  · exact pattern.diagnose_congr hbodies
  · exact block.find?_congr hbodies
  · exact edit.sameVerdict_of_bodies rfl hbodies

/-- A newline alone would not do: it takes a carriage return at the end of a body for its own. -/
example :
    let t : Text := ['x', '\r', '\r', '\n']
    (Block.ofText ['x']).find? t.lines = none ∧
      (Block.ofText ['x']).find? (t.withEnding .crlf).lines = none ∧
      (Block.ofText ['x']).find? (t.withEnding .lf).lines = some 0 := by
  decide

end Graft
