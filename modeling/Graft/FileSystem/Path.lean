import Graft.Text

/-!
# Paths

A path is a written name of a file: pieces with slashes between them, from the root when it starts
with a slash. Paths are joined and shortened as they are written; nothing is normalised and no link
is followed.
-/

namespace Graft

/-- A written name of a file. -/
abbrev Path := String

namespace Path

/-- Whether a path starts at the root. -/
def isAbsolute (path : Path) : Bool :=
  path.toList.head? = some '/'

/-- The path that `path` names when it is read from `base`. -/
def join (base path : Path) : Path :=
  if isAbsolute path || base.isEmpty then path
  else if base.toList.getLast? = some '/' then base ++ path
  else base ++ "/" ++ path

/-- A piece that adds nothing to the pieces before it. -/
def isIdle (piece : Text) : Bool :=
  piece.isEmpty || piece = ['.']

/-- The path without its last piece; idle pieces at the end are dropped with it. The root and the
empty path have no parent. -/
def parent? (path : Path) : Option Path :=
  match Text.split '/' path.toList with
  | [] => none
  | first :: rest =>
    match rest.reverse.dropWhile isIdle with
    | [] => if first.isEmpty then none else some ""
    | _ :: above =>
      match (above.dropWhile isIdle).reverse with
      | [] => if first.isEmpty then some "/" else some (String.ofList first)
      | kept => some (String.ofList (['/'].intercalate (first :: kept)))

/-- What follows the last dot of a file name, when something stands before that dot. -/
def extension? (name : Path) : Option String :=
  match Text.cut? '.' name.toList.reverse with
  | some (after, before) => if before.isEmpty then none else some (String.ofList after.reverse)
  | none => none

/-- The names to walk through, one after another. A slash at the end asks for a directory, as a last
name `.` does. -/
def steps (path : Path) : List String :=
  let pieces := Text.split '/' path.toList
  let names := (pieces.filter fun piece => !piece.isEmpty).map String.ofList
  if pieces.getLast? = some [] then names ++ ["."] else names

end Path

end Graft
