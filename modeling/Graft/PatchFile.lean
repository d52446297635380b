import Graft.Condition
import Graft.Edit
import Graft.FileSystem.Path

/-!
# Patch files

A patch file is a list of named patches with some words about itself. A patch says which file to
edit, at which anchor, and what to insert; the block is given inline or by the path of another file.

* `AnchorEntry.condition`: the condition of an anchor entry, which has exactly one test.
* `Patch.pattern`: the pattern of all anchor entries, in order.
-/

namespace Graft

/-- One condition of an anchor, as a patch file gives it: every test has a field of its own. -/
structure AnchorEntry where
  /-- How many lines below the candidate position the tested line is. -/
  offset : Int64 := 0
  /-- The body is this text. -/
  equals : Option Text := none
  /-- The body is this text, white space at the ends apart. -/
  equalsTrimmed : Option Text := none
  /-- This text stands in the body. -/
  contains : Option Text := none
  /-- The body starts with this text. -/
  startsWith : Option Text := none
  /-- The body is blank. -/
  blank : Bool := false
  deriving DecidableEq, Repr

/-- Why an anchor entry is no condition. -/
inductive EntryError
  /-- The text to contain is empty. -/
  | emptyContains
  /-- The text to start with is empty. -/
  | emptyStartsWith
  /-- No test is given. -/
  | noTest
  /-- More than one test is given. -/
  | severalTests
  deriving DecidableEq, Repr

/-- Why an anchor entry is no condition, in words. -/
def EntryError.message : EntryError → String
  | emptyContains => "contains must not be empty"
  | emptyStartsWith => "starts_with must not be empty"
  | noTest => "condition needs one of equals, equals_trimmed, contains, starts_with, blank"
  | severalTests => "only one predicate is allowed per condition"

namespace AnchorEntry

/-- The tests that are given, in the order of their fields. -/
def tests (entry : AnchorEntry) : List LineTest :=
  (entry.equals.map LineTest.equals).toList
    ++ (entry.equalsTrimmed.map LineTest.equalsTrimmed).toList
    ++ (entry.contains.map LineTest.contains).toList
    ++ (entry.startsWith.map LineTest.startsWith).toList
    ++ if entry.blank then [LineTest.blank] else []

/-- The condition of an anchor entry. -/
def condition (entry : AnchorEntry) : Except EntryError Condition :=
  if entry.contains = some [] then .error .emptyContains
  else if entry.startsWith = some [] then .error .emptyStartsWith
  else
    match entry.tests with
    | [test] => .ok ⟨entry.offset, test⟩
    | [] => .error .noTest
    | _ => .error .severalTests

end AnchorEntry

/-- Where the block of a patch comes from. -/
structure BlockSource where
  /-- The text of the block. -/
  text : Option Text := none
  /-- The file that holds the text of the block. -/
  path : Option Path := none
  deriving DecidableEq, Repr

/-- A named edit of a file. -/
structure Patch where
  /-- The name of the patch. -/
  id : String
  /-- The file to edit. -/
  file : Path
  /-- The side of the anchor line. -/
  placement : Placement := .after
  /-- Whether a file that has the block already is left alone. -/
  skipIfPresent : Bool := true
  /-- The conditions of the anchor. -/
  anchor : List AnchorEntry := []
  /-- Where the block comes from. -/
  insert : BlockSource := {}
  deriving DecidableEq, Repr

/-- The pattern of all anchor entries, in order, or what is wrong with the first bad one. -/
def Patch.pattern (patch : Patch) : Except EntryError Pattern :=
  (patch.anchor.mapM AnchorEntry.condition).map Pattern.mk

/-- What a patch file says about itself. -/
structure About where
  /-- The name of the patch file. -/
  name : String := ""
  /-- What the patches are for. -/
  description : Option String := none
  deriving DecidableEq, Repr

/-- A list of patches. -/
structure PatchFile where
  /-- What the file says about itself. -/
  about : About := {}
  /-- The patches, in order. -/
  patches : List Patch := []
  /-- The directory that paths of block files are read from. -/
  baseDirectory : Option Path := none
  deriving DecidableEq, Repr

end Graft
