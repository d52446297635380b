import Graft.PatchFile.Validation
import Mathlib.Data.Prod.Lex

/-!
# All faults and no others

Validation goes on after a fault. It tells every fault of every patch, once, patch by patch, and the
faults of one patch in the order of its fields.

* `Patch.HasIssue`: the faults of a patch, said of its fields.
* `Patch.mem_issues_iff`, `Patch.pairwise_issues`: these are told, and in order.
* `PatchFile.issues_collect`: how the faults of a list of patches come from those of single ones.
-/

namespace Graft

/-! ## The order of faults -/

namespace Issue

/-- The name that the fault gives to its patch. -/
def patch? : Issue → Option String
  | noPatches => none
  | missingField patch _ => patch
  | conflict patch _ => patch

/-- Where a fault of a patch is told: by the field that it is in, and within the anchor by the index
of the entry. -/
def place : Issue → Nat × Nat
  | noPatches => (0, 0)
  | missingField _ .id => (0, 0)
  | missingField _ .file => (1, 0)
  | missingField _ .anchor => (2, 0)
  | conflict _ (.anchorEntry index _) => (3, index)
  | missingField _ .insertText => (4, 0)
  | conflict _ .twoSources => (4, 0)

/-- Faults of a patch that are told one before the other. No fault precedes itself. -/
def Precedes (first second : Issue) : Prop :=
  Prod.Lex (· < ·) (· < ·) first.place second.place

/-- Faults in order, all of them in fields before the one with the number `n`. -/
structure InOrder (n : Nat) (issues : List Issue) : Prop where
  pairwise : issues.Pairwise Precedes
  lt : ∀ issue ∈ issues, issue.place.1 < n

/-- The faults in the next field go behind those in the fields before it. -/
theorem InOrder.append {front back : List Issue} {n : Nat} (h : InOrder n front)
    (hback : back.Pairwise Precedes) (hplace : ∀ issue ∈ back, issue.place.1 = n) :
    InOrder (n + 1) (front ++ back) := by
  constructor
  · refine List.pairwise_append.2 ⟨h.pairwise, hback, fun first hfirst second hsecond => ?_⟩
    rw [Precedes, Prod.lex_def, hplace second hsecond]
    exact .inl (h.lt first hfirst)
  · intro issue hissue
    rcases List.mem_append.1 hissue with hfront | hback
    · exact Nat.lt_succ_of_lt (h.lt issue hfront)
    · exact (hplace issue hback).symm ▸ Nat.lt_succ_self n

end Issue

namespace Patch

variable {patch : Patch} {issue : Issue}

/-- The faults of a patch: a name, a file or an anchor that is not given, entries of the anchor that
are no conditions, and a block that comes from two sources, from none, or from a blank text. -/
inductive HasIssue (patch : Patch) : Issue → Prop
  | blankId (h : isBlankName patch.id) : HasIssue patch (.missingField patch.name? .id)
  | blankFile (h : isBlankName patch.file) : HasIssue patch (.missingField patch.name? .file)
  | noAnchor (h : patch.anchor = []) : HasIssue patch (.missingField patch.name? .anchor)
  | noCondition {index : Nat} {entry : AnchorEntry} {error : EntryError}
      (hentry : patch.anchor[index]? = some entry) (h : entry.condition = .error error) :
      HasIssue patch (.conflict patch.name? (.anchorEntry index error))
  | twoSources (htext : patch.insert.text.isSome) (hpath : patch.insert.path.isSome) :
      HasIssue patch (.conflict patch.name? .twoSources)
  | noSource (htext : patch.insert.text = none) (hpath : patch.insert.path = none) :
      HasIssue patch (.missingField patch.name? .insertText)
  | blankText {text : Text} (htext : patch.insert.text = some text)
      (hpath : patch.insert.path = none) (h : text.isBlank) :
      HasIssue patch (.missingField patch.name? .insertText)

theorem name?_of_isBlankName (h : isBlankName patch.id) : patch.name? = none := by
  rw [name?, if_pos h]

/-- Every fault of a patch has its name. -/
theorem HasIssue.patch?_eq (h : patch.HasIssue issue) : issue.patch? = patch.name? := by
  cases h <;> rfl

/-! ## The faults that are told -/

/-- The entries that are no conditions are told by their index. -/
theorem mem_anchorConflicts_iff {clash : Conflict} :
    clash ∈ patch.anchorConflicts ↔ ∃ index entry error, patch.anchor[index]? = some entry ∧
      AnchorEntry.condition entry = .error error ∧ clash = .anchorEntry index error := by
  simp only [anchorConflicts, List.mem_filterMap, List.mem_zipIdx_iff_getElem?]
  constructor
  · rintro ⟨⟨entry, index⟩, hentry, hclash⟩
    dsimp only at hclash
    split at hclash
    next error herror => exact ⟨index, entry, error, hentry, herror, (Option.some.inj hclash).symm⟩
    next => cases hclash
  · rintro ⟨index, entry, error, hentry, herror, rfl⟩
    refine ⟨(entry, index), hentry, ?_⟩
    simp only [herror]

/-- The fault of a block source is that there are two, or none, or a blank text. -/
theorem sourceIssue?_eq_some_iff :
    patch.sourceIssue? = some issue ↔
      (patch.insert.text.isSome ∧ patch.insert.path.isSome) ∧
          issue = .conflict patch.name? .twoSources ∨
        ((patch.insert.text = none ∧ patch.insert.path = none) ∨
          ∃ text, patch.insert.text = some text ∧ patch.insert.path = none ∧ text.isBlank) ∧
          issue = .missingField patch.name? .insertText := by
  unfold sourceIssue?
  cases patch.insert.text with
  | none => cases patch.insert.path <;> simp [eq_comm (b := issue)]
  | some text =>
    cases patch.insert.path with
    | none => by_cases hblank : text.isBlank <;> simp [hblank, eq_comm (b := issue)]
    | some path => simp [eq_comm (b := issue)]

/-- What is told of a patch is what is wrong with it. -/
theorem mem_issues_iff : issue ∈ patch.issues ↔ patch.HasIssue issue := by
  simp only [issues, List.mem_append, List.mem_ite_nil_right, List.mem_singleton, List.mem_map,
    mem_anchorConflicts_iff, Option.mem_toList, sourceIssue?_eq_some_iff, List.isEmpty_iff]
  constructor
  · rintro ((((⟨hid, rfl⟩ | ⟨hfile, rfl⟩) | ⟨hanchor, rfl⟩) |
      ⟨_, ⟨index, entry, error, hentry, herror, rfl⟩, rfl⟩) |
      ⟨⟨htext, hpath⟩, rfl⟩ | ⟨⟨htext, hpath⟩ | ⟨text, htext, hpath, hblank⟩, rfl⟩)
    · rw [← name?_of_isBlankName hid]
      exact .blankId hid
    · exact .blankFile hfile
    · exact .noAnchor hanchor
    · exact .noCondition hentry herror
    · exact .twoSources htext hpath
    · exact .noSource htext hpath
    · exact .blankText htext hpath hblank
  · intro h
    cases h with
    | blankId hid =>
      rw [name?_of_isBlankName hid]
      exact .inl (.inl (.inl (.inl ⟨hid, rfl⟩)))
    | blankFile hfile => exact .inl (.inl (.inl (.inr ⟨hfile, rfl⟩)))
    | noAnchor hanchor => exact .inl (.inl (.inr ⟨hanchor, rfl⟩))
    | noCondition hentry herror =>
      exact .inl (.inr ⟨_, ⟨_, _, _, hentry, herror, rfl⟩, rfl⟩)
    | twoSources htext hpath => exact .inr (.inl ⟨⟨htext, hpath⟩, rfl⟩)
    | noSource htext hpath => exact .inr (.inr ⟨.inl ⟨htext, hpath⟩, rfl⟩)
    | blankText htext hpath hblank => exact .inr (.inr ⟨.inr ⟨_, htext, hpath, hblank⟩, rfl⟩)

/-- The entries that are no conditions are told by ascending index. -/
theorem pairwise_anchorConflicts (patch : Patch) :
    (patch.anchorConflicts.map (Issue.conflict patch.name?)).Pairwise Issue.Precedes := by
  have hindexes : patch.anchor.zipIdx.Pairwise fun first second => first.2 < second.2 := by
    rw [← List.pairwise_map (f := Prod.snd), List.zipIdx_map_snd]
    exact List.pairwise_lt_range'
  rw [List.pairwise_map, anchorConflicts]
  refine hindexes.filterMap _ ?_
  rintro ⟨entry, i⟩ ⟨entry', j⟩ hlt clash hclash clash' hclash'
  dsimp only at hclash hclash'
  split at hclash <;> cases hclash
  split at hclash' <;> cases hclash'
  exact .right _ hlt

/-- The faults of a patch are told in the order of its fields, those of the anchor in the order of
its entries. -/
theorem pairwise_issues (patch : Patch) : patch.issues.Pairwise Issue.Precedes := by
  rw [issues]
  -- field by field, each behind those before it
  refine (Issue.InOrder.append (n := 4) (.append (.append (.append ?id ?file ?filePlace)
    ?anchor ?anchorPlace) ?entries ?entriesPlace) ?source ?sourcePlace).pairwise
  case id => exact ⟨by split <;> simp, by simp [Issue.place]⟩
  case file => split <;> simp
  case filePlace => simp [Issue.place]
  case anchor => split <;> simp
  case anchorPlace => simp [Issue.place]
  case entries => exact pairwise_anchorConflicts patch
  case entriesPlace =>
    intro issue hissue
    obtain ⟨clash, hclash, rfl⟩ := List.mem_map.1 hissue
    obtain ⟨index, entry, error, -, -, rfl⟩ := mem_anchorConflicts_iff.1 hclash
    rfl
  case source => cases patch.sourceIssue? <;> simp
  case sourcePlace =>
    intro issue hissue
    rcases sourceIssue?_eq_some_iff.1 (Option.mem_toList.1 hissue) with ⟨-, rfl⟩ | ⟨-, rfl⟩ <;> rfl

end Patch

namespace PatchFile

/-- The faults of two lists of patches are those of the first and then those of the second; that
there are no patches is a fault of its own. What is told of a single patch is what is wrong with it,
in the order of its fields and of the entries of its anchor, and with its name unless that is blank.
Only patches without faults are let through, and otherwise all faults are told. -/
theorem issues_collect :
    (∀ first second : List Patch, first ≠ [] → second ≠ [] →
      issues (first ++ second) = issues first ++ issues second) ∧
      issues [] = [.noPatches] ∧
      (∀ patch : Patch,
        (∀ issue, issue ∈ issues [patch] ↔ patch.HasIssue issue) ∧
          (issues [patch]).Pairwise Issue.Precedes ∧
          ∀ issue ∈ issues [patch],
            issue.patch? = if isBlankName patch.id then none else some patch.id) ∧
      ∀ patches : List Patch,
        (validate patches = .ok () ↔ issues patches = []) ∧
          ∀ found, validate patches = .error found ↔ issues patches = found ∧ found ≠ [] := by
  refine ⟨fun first second hfirst hsecond => issues_append hfirst hsecond, rfl, fun patch => ?_,
    fun patches => ⟨validate_eq_ok_iff, fun found => validate_eq_error_iff⟩⟩
  have hsingle : issues [patch] = patch.issues := by simp [issues]
  rw [hsingle]
  exact ⟨fun issue => Patch.mem_issues_iff, patch.pairwise_issues,
    fun issue hissue => (Patch.mem_issues_iff.1 hissue).patch?_eq⟩

/-- A patch with a fault in almost every field, and one that lacks its anchor and its text. -/
theorem issues_collect_of_two :
    let worst : Patch :=
      { id := " ", file := "", anchor := [{ blank := true }, { contains := some [] }, {}],
        insert := { text := some ['x'], path := some "b" } }
    let bare : Patch := { id := "p", file := "f", insert := { text := some [' ', '\n'] } }
    ([worst] ≠ [] ∧ [bare] ≠ []) ∧
      issues ([worst] ++ [bare]) = issues [worst] ++ issues [bare] ∧
      issues [worst] = [.missingField none .id, .missingField none .file,
        .conflict none (.anchorEntry 1 .emptyContains), .conflict none (.anchorEntry 2 .noTest),
        .conflict none .twoSources] ∧
      issues [bare] = [.missingField (some "p") .anchor, .missingField (some "p") .insertText] ∧
      worst.HasIssue (.conflict none (.anchorEntry 2 .noTest)) ∧
      validate [worst] = .error (issues [worst]) := by
  intro worst bare
  have hworst : [worst] ≠ [] := List.cons_ne_nil worst []
  have hbare : [bare] ≠ [] := List.cons_ne_nil bare []
  have hissues : issues [worst] = [.missingField none .id, .missingField none .file,
      .conflict none (.anchorEntry 1 .emptyContains), .conflict none (.anchorEntry 2 .noTest),
      .conflict none .twoSources] := by
    decide +kernel
  obtain ⟨happend, -, hsingle, hvalidate⟩ := issues_collect
  refine ⟨⟨hworst, hbare⟩, happend _ _ hworst hbare, hissues, by decide +kernel, ?_, ?_⟩
  · exact ((hsingle worst).1 _).1 (by simp [hissues])
  · exact ((hvalidate [worst]).2 _).2 ⟨rfl, by simp [hissues]⟩

end PatchFile

end Graft
