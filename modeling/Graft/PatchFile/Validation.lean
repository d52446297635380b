import Graft.PatchFile

/-!
# Validation of patch files

All faults of a patch file are collected, patch by patch, before any of its patches is used.

* `PatchFile.issues`: the faults, in order.
* `PatchFile.validate`: only patches without faults are let through.
* `PatchFile.issues_append`: the faults of more patches follow those of the patches before.
-/

namespace Graft

/-- A field that a patch needs. -/
inductive Field
  /-- The name of the patch. -/
  | id
  /-- The file to edit. -/
  | file
  /-- The conditions of the anchor. -/
  | anchor
  /-- The text of the block. -/
  | insertText
  deriving DecidableEq, Repr

/-- The name of a field in a patch file. -/
def Field.name : Field → String
  | id => "id"
  | file => "file"
  | anchor => "anchor"
  | insertText => "insert.text"

/-- Fields that do not go together. -/
inductive Conflict
  /-- An anchor entry is no condition. -/
  | anchorEntry (index : Nat) (error : EntryError)
  /-- The block comes from two sources. -/
  | twoSources
  deriving DecidableEq, Repr

/-- Which fields do not go together, in words. -/
def Conflict.message : Conflict → String
  | anchorEntry index error => s!"anchor[{index}]: " ++ error.message
  | twoSources => "insert.text and insert.path cannot both be set"

/-- A fault of a patch file, with the name of the patch where it has one. -/
inductive Issue
  /-- There are no patches. -/
  | noPatches
  /-- A field is missing or blank. -/
  | missingField (patch : Option String) (field : Field)
  /-- Fields do not go together. -/
  | conflict (patch : Option String) (clash : Conflict)
  deriving DecidableEq, Repr

/-- The fault in words. -/
def Issue.message : Issue → String
  | noPatches => "patch config contains no patches"
  | missingField (some patch) field =>
    "patch '" ++ patch ++ "' missing required field '" ++ field.name ++ "'"
  | missingField none field => "patch missing required field '" ++ field.name ++ "'"
  | conflict (some patch) clash =>
    "patch '" ++ patch ++ "' has invalid configuration: " ++ clash.message
  | conflict none clash => "invalid patch configuration: " ++ clash.message

/-- Several faults in words, one after another on lines of their own. -/
def Issue.messages (issues : List Issue) : String :=
  "\n".intercalate (issues.map Issue.message)

/-- Whether a name is empty or white space. -/
def isBlankName (name : String) : Bool :=
  Text.isBlank name.toList

namespace Patch

/-- The name of a patch, when it is not blank. -/
def name? (patch : Patch) : Option String :=
  if isBlankName patch.id then none else some patch.id

/-- The faults of anchor entries that are no conditions, by ascending index. -/
def anchorConflicts (patch : Patch) : List Conflict :=
  patch.anchor.zipIdx.filterMap fun (entry, index) =>
    match entry.condition with
    | .error e => some (.anchorEntry index e)
    | .ok _ => none

/-- The fault of the block source, if it has one. -/
def sourceIssue? (patch : Patch) : Option Issue :=
  match patch.insert.text, patch.insert.path with
  | some _, some _ => some (.conflict patch.name? .twoSources)
  | none, none => some (.missingField patch.name? .insertText)
  | some text, none =>
    if text.isBlank then some (.missingField patch.name? .insertText) else none
  | none, some _ => none

/-- The faults of a patch, in order. -/
def issues (patch : Patch) : List Issue :=
  (if isBlankName patch.id then [.missingField none .id] else [])
    ++ (if isBlankName patch.file then [.missingField patch.name? .file] else [])
    ++ (if patch.anchor.isEmpty then [.missingField patch.name? .anchor] else [])
    ++ patch.anchorConflicts.map (Issue.conflict patch.name?)
    ++ patch.sourceIssue?.toList

end Patch

namespace PatchFile

/-- The faults of a list of patches, in order. -/
def issues (patches : List Patch) : List Issue :=
  if patches.isEmpty then [.noPatches] else patches.flatMap Patch.issues

/-- Patches are let through if they have no faults; otherwise all faults are told. -/
def validate (patches : List Patch) : Except (List Issue) Unit :=
  if (issues patches).isEmpty then .ok () else .error (issues patches)

/-- The faults of more patches follow those of the patches before. -/
theorem issues_append {first second : List Patch} (hf : first ≠ []) (hs : second ≠ []) :
    issues (first ++ second) = issues first ++ issues second := by
  simp [issues, hf, hs]

theorem validate_eq_ok_iff {patches : List Patch} :
    validate patches = .ok () ↔ issues patches = [] := by
  unfold validate
  split <;> simp_all

theorem validate_eq_error_iff {patches : List Patch} {found : List Issue} :
    validate patches = .error found ↔ issues patches = found ∧ found ≠ [] := by
  unfold validate
  split <;> grind

end PatchFile

end Graft
