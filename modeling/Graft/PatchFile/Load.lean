import Graft.FileSystem
import Graft.PatchFile.Decode
import Graft.PatchFile.Validation
import Graft.Toml.Reader

/-!
# Loading patch files

A patch file is read, decoded and validated; only one without faults is returned. Loaded from a
path, it takes the directory of that path as the base of its block files.

* `PatchFile.issues_of_parse`: a patch file that was returned has no faults.
-/

namespace Graft

/-- Why a patch file cannot be used. The path is absent when the text was given directly. -/
inductive LoadError
  /-- The file cannot be read. -/
  | unreadable (path : Path) (error : FileError)
  /-- The text is no TOML, or not of a patch file. -/
  | notToml (path : Option Path) (error : DecodeError)
  /-- The patch file has faults. -/
  | invalid (path : Option Path) (issues : List Issue)
  deriving DecidableEq, Repr

namespace LoadError

/-- The path with a space before it, or nothing. -/
def origin : Option Path → String
  | some path => " " ++ path
  | none => ""

/-- What the error comes from, in words. -/
def cause : LoadError → String
  | unreadable _ error => error.message
  | notToml _ error => error.message?.getD "TOML parse error"
  | invalid _ issues => Issue.messages issues

/-- The error in words. -/
def message : LoadError → String
  | unreadable path error => "cannot read patch file " ++ path ++ ": " ++ error.message
  | notToml path error =>
    "patch file" ++ origin path ++ " is not valid TOML: " ++ (notToml path error).cause
  | invalid path issues => "patch file" ++ origin path ++ " is invalid: " ++ Issue.messages issues

end LoadError

namespace PatchFile

/-- The patch file in a text that was read from `path`. -/
def parse (path : Option Path) (text : Text) : Except LoadError PatchFile :=
  match Toml.ofText? text with
  | none => .error (.notToml path .malformed)
  | some entries =>
    match ofToml entries with
    | .error e => .error (.notToml path e)
    | .ok file =>
      match validate file.patches with
      | .ok () => .ok file
      | .error found => .error (.invalid path found)

/-- The patch file that a path names. -/
def load (fs : FileSystem) (path : Path) : Except LoadError PatchFile :=
  match fs.readText path with
  | .error e => .error (.unreadable path e)
  | .ok text =>
    match parse (some path) text with
    | .error e => .error e
    | .ok file => .ok { file with baseDirectory := path.parent? }

/-- A patch file that was returned has no faults. -/
theorem issues_of_parse {path : Option Path} {text : Text} {file : PatchFile}
    (h : parse path text = .ok file) : issues file.patches = [] := by
  unfold parse at h
  split at h
  · simp at h
  · split at h
    · simp at h
    · split at h
      · rename_i valid
        simp only [Except.ok.injEq] at h
        subst h
        exact validate_eq_ok_iff.1 valid
      · simp at h

end PatchFile

end Graft
