import Graft.PatchFile
import Graft.Toml.Value

/-!
# Patch files from TOML

The tables of a TOML document as a patch file. The first fault in the order of the document is
reported. Anchor entries and block sources refuse fields that they do not know; elsewhere such
fields are ignored. An array stands for a table whose fields it gives in their order.
-/

namespace Graft

/-- Why a TOML document is no patch file. -/
inductive DecodeError
  /-- A field is missing. -/
  | missingField (name : String)
  /-- A field is not known. -/
  | unknownField (name expected : String)
  /-- A placement is neither before nor after. -/
  | unknownPlacement (name : String)
  /-- A value is of the wrong kind. -/
  | wrongKind (found wanted : String)
  /-- A value has the wrong shape. -/
  | malformed
  deriving DecidableEq, Repr

/-- The fault in words; there are none for a wrong shape. -/
def DecodeError.message? : DecodeError → Option String
  | missingField name => some ("missing field `" ++ name ++ "`")
  | unknownField name expected =>
    some ("unknown field `" ++ name ++ "`, expected " ++ expected)
  | unknownPlacement name =>
    some ("unknown variant `" ++ name ++ "`, expected `before` or `after`")
  | wrongKind found wanted => some ("invalid type: " ++ found ++ ", expected " ++ wanted)
  | malformed => none

namespace Toml.Value

/-- A value of the wrong kind. -/
def refuse {α : Type} (value : Value) (wanted : String) : Except DecodeError α :=
  .error (.wrongKind value.describe wanted)

/-- The text of a string. -/
def text (wanted : String) : Value → Except DecodeError Text
  | string text => .ok text
  | value => value.refuse wanted

/-- The text of a string, as a name. -/
def name (wanted : String) (value : Value) : Except DecodeError String :=
  (value.text wanted).map String.ofList

/-- A truth value. -/
def truth : Value → Except DecodeError Bool
  | boolean b => .ok b
  | value => value.refuse "a boolean"

/-- An integer. -/
def int64 : Value → Except DecodeError Int64
  | integer n => .ok n
  | value => value.refuse "isize"

/-- The elements of an array. -/
def sequence : Value → Except DecodeError (List Value)
  | array _ elements => .ok elements
  | value => value.refuse "a sequence"

/-- The fields of a record: the entries of a table, or the elements of an array under the names of
the fields in their order. A moment is a table with a private field. -/
def fields (wanted : String) (names : List String) : Value → Except DecodeError Entries
  | table _ entries => .ok entries
  | array _ elements => .ok (names.zip elements)
  | moment text => .ok [("$__toml_private_datetime", string text)]
  | value => value.refuse wanted

/-- Whether the fields of a record are given by an array. -/
def isArray : Value → Bool
  | array _ _ => true
  | _ => false

/-- Whether a value is a table or an array without content. -/
def isHollow : Value → Bool
  | table _ entries => entries.isEmpty
  | array _ elements => elements.isEmpty
  | _ => false

end Toml.Value

open Toml

namespace Placement

/-- The placement with a name. -/
def ofName (name : String) : Except DecodeError Placement :=
  if name = "before" then .ok before
  else if name = "after" then .ok after
  else .error (.unknownPlacement name)

/-- A placement: its name, or a table with its name and nothing below it. -/
def ofToml : Value → Except DecodeError Placement
  | .string text => ofName (String.ofList text)
  | .table _ [(name, value)] => do
    let placement ← ofName name
    if value.isHollow then .ok placement else .error .malformed
  | _ => .error .malformed

end Placement

namespace About

/-- What a patch file says about itself. -/
def ofToml (value : Value) : Except DecodeError About := do
  let fields ← value.fields "struct Metadata" ["name", "description"]
  fields.foldlM
    (fun about (key, value) => do
      match key with
      | "name" => return { about with name := ← value.name "a string" }
      | "description" => return { about with description := some (← value.name "a string") }
      | _ => return about)
    {}

end About

namespace AnchorEntry

/-- An anchor entry. -/
def ofToml (value : Value) : Except DecodeError AnchorEntry := do
  let names := ["offset", "equals", "equals_trimmed", "contains", "starts_with", "blank"]
  let fields ← value.fields "struct AnchorEntry" names
  fields.foldlM
    (fun entry (key, value) => do
      match key with
      | "offset" => return { entry with offset := ← value.int64 }
      | "equals" => return { entry with equals := some (← value.text "a string") }
      | "equals_trimmed" => return { entry with equalsTrimmed := some (← value.text "a string") }
      | "contains" => return { entry with contains := some (← value.text "a string") }
      | "starts_with" => return { entry with startsWith := some (← value.text "a string") }
      | "blank" => return { entry with blank := ← value.truth }
      | _ =>
        let expected := ", ".intercalate (names.map fun name => "`" ++ name ++ "`")
        throw (.unknownField key ("one of " ++ expected)))
    {}

end AnchorEntry

namespace BlockSource

/-- A block source. -/
def ofToml (value : Value) : Except DecodeError BlockSource := do
  let fields ← value.fields "struct InsertEntry" ["text", "path"]
  fields.foldlM
    (fun source (key, value) => do
      match key with
      | "text" => return { source with text := some (← value.text "a string") }
      | "path" => return { source with path := some (← value.name "path string") }
      | _ => throw (.unknownField key "`text` or `path`"))
    {}

end BlockSource

namespace Patch

/-- What is known of a patch after some of its fields. -/
structure Draft where
  /-- The name of the patch, once it is known. -/
  id? : Option String := none
  /-- The file to edit, once it is known. -/
  file? : Option String := none
  /-- The patch with the other fields. -/
  rest : Patch := { id := "", file := "" }

/-- A patch with one more field. -/
def Draft.add (draft : Draft) (key : String) (value : Value) : Except DecodeError Draft := do
  match key with
  | "id" => return { draft with id? := some (← value.name "a string") }
  | "file" => return { draft with file? := some (← value.name "a string") }
  | "placement" =>
    return { draft with rest := { draft.rest with placement := ← Placement.ofToml value } }
  | "skip_if_present" =>
    return { draft with rest := { draft.rest with skipIfPresent := ← value.truth } }
  | "anchor" =>
    let entries ← (← value.sequence).mapM AnchorEntry.ofToml
    return { draft with rest := { draft.rest with anchor := entries } }
  | "insert" =>
    return { draft with rest := { draft.rest with insert := ← BlockSource.ofToml value } }
  | _ => return draft

/-- A patch; its name and its file have to be given. -/
def ofToml (value : Value) : Except DecodeError Patch := do
  let names := ["id", "file", "placement", "skip_if_present", "anchor", "insert"]
  let fields ← value.fields "struct PatchDefinition" names
  let draft ← fields.foldlM (fun draft (key, value) => Draft.add draft key value) {}
  match draft.id?, draft.file? with
  | some id, some file => return { draft.rest with id := id, file := file }
  | none, _ => throw (if value.isArray then .malformed else .missingField "id")
  | some _, none => throw (if value.isArray then .malformed else .missingField "file")

end Patch

namespace PatchFile

/-- The patch file in the entries of a document. -/
def ofToml (entries : Entries) : Except DecodeError PatchFile :=
  entries.foldlM
    (fun file (key, value) => do
      match key with
      | "meta" => return { file with about := ← About.ofToml value }
      | "patches" => return { file with patches := ← (← value.sequence).mapM Patch.ofToml }
      | _ => return file)
    {}

end PatchFile

end Graft
