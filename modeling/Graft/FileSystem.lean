import Graft.FileSystem.Path
import Graft.Text.Bytes

/-!
# File systems

A file system is a value: the directories, files and symbolic links at each location, and the
directory that relative paths are read from. A path is resolved step by step, links included, to the
location of a file or directory. Modes are kept with the files; they keep nobody out.

* `FileSystem.resolve`: the location that a path names, links followed.
* `FileSystem.locate`: the same for a path that is opened as it is written.
* `FileSystem.canonicalize`: the path from the root, without links, of what a path names.
* `FileSystem.setContent`: a file with other bytes; its mode and everything else stay.
* `FileSystem.lookup_concat`: a name stands in a directory, or nowhere.
* `FileSystem.lookup_setContent`: what stands where afterwards.
-/

namespace Graft

/-- Why a file cannot be reached or read. -/
inductive FileError
  /-- Nothing has this name. -/
  | notFound
  /-- Something on the way is no directory. -/
  | notADirectory
  /-- A directory has no content to read. -/
  | isADirectory
  /-- The links lead on and on. -/
  | tooManyLinks
  /-- The path, or a name in it, is longer than the system allows. -/
  | nameTooLong
  /-- The path has a null character, which no name can have. -/
  | nullInName
  /-- The bytes are no text. -/
  | notText
  deriving DecidableEq, Repr

/-- The error in the words of the system. -/
def FileError.message : FileError → String
  | notFound => "No such file or directory (os error 2)"
  | notADirectory => "Not a directory (os error 20)"
  | isADirectory => "Is a directory (os error 21)"
  | tooManyLinks => "Too many levels of symbolic links (os error 40)"
  | nameTooLong => "File name too long (os error 36)"
  | nullInName => "file name contained an unexpected NUL byte"
  | notText => "stream did not contain valid UTF-8"

/-- A place in a file system: the names on the way from the root. -/
abbrev Location := List String

/-- The absolute path of a location. -/
def Location.path (location : Location) : Path :=
  "/" ++ "/".intercalate location

/-- What stands at a location. -/
inductive Node
  /-- A directory. -/
  | directory
  /-- A file with its bytes and its permission bits. -/
  | file (content : ByteArray) (mode : Nat)
  /-- A symbolic link. -/
  | link (target : Path)

instance : DecidableEq Node
  | .directory, .directory => isTrue rfl
  | .file content mode, .file content' mode' =>
    decidable_of_iff (content.data = content'.data ∧ mode = mode') (by simp [ByteArray.ext_iff])
  | .link target, .link target' => decidable_of_iff (target = target') (by simp)
  | .directory, .file .. | .directory, .link .. | .file .., .directory | .file .., .link ..
  | .link .., .directory | .link .., .file .. => isFalse nofun

/-- A file with other bytes; anything else stays as it is. -/
def Node.withContent (content : ByteArray) : Node → Node
  | file _ mode => file content mode
  | node => node

/-- A directory has no bytes to be replaced. -/
@[simp]
theorem Node.withContent_directory (content : ByteArray) :
    Node.directory.withContent content = .directory := rfl

/-- Other bytes make no directory, and nothing else of one. -/
@[simp]
theorem Node.withContent_eq_directory_iff {content : ByteArray} {node : Node} :
    node.withContent content = .directory ↔ node = .directory := by
  cases node <;> simp [Node.withContent]

/-- The files as a process sees them. -/
structure FileSystem where
  /-- What stands at each location below the root; the first entry for a location counts. -/
  nodes : List (Location × Node)
  /-- The directory that relative paths are read from. -/
  cwd : Location
  deriving DecidableEq

namespace FileSystem

/-- How many links a path may lead through. -/
def maxLinks : Nat := 40

/-- How many bytes a name may have. -/
def maxNameSize : Nat := 255

/-- How many bytes a path may have that is opened as it is written. -/
def maxPathSize : Nat := 4095

/-- Whether a name can stand in a directory: it is no longer than the system allows, has no slash
and no null character, and is none of the names that lead to the directory itself or back. -/
def isName (name : String) : Bool :=
  !name.isEmpty && name ≠ "." && name ≠ ".." && !name.toList.contains '/'
    && !name.toList.contains '\x00' && name.utf8ByteSize ≤ maxNameSize

/-- What is listed for a location. The root is a directory. -/
def listed (fs : FileSystem) (location : Location) : Option Node :=
  if location = [] then some .directory else fs.nodes.lookup location

/-- Whether directories lead to a location, each by a name that can stand in the one before. -/
def isReached (fs : FileSystem) (location : Location) : Bool :=
  location.all isName
    && (List.range location.length).all fun n => fs.listed (location.take n) = some .directory

/-- What stands at a location. What is listed for a location that no directories lead to does not
count. -/
def lookup (fs : FileSystem) (location : Location) : Option Node :=
  if fs.isReached location then fs.listed location else none

/-- What a name in a directory leads to. -/
inductive Passage
  /-- A location at which no link stands. -/
  | to (location : Location)
  /-- A link, which is still to be followed. -/
  | link (target : Path)
  deriving DecidableEq

/-- What walking to a location leads to when a node stands there. -/
def Passage.ofNode (location : Location) : Node → Passage
  | .link target => .link target
  | _ => .to location

/-- What a name leads to from `here`; `fits` tells which locations may be asked for. -/
def enter (fs : FileSystem) (fits : Location → Bool) (here : Location) (name : String) :
    Except FileError Passage :=
  -- `.` and `..` are walked without asking for a location of their own
  if name ≠ "." ∧ name ≠ ".." ∧ !fits (here ++ [name]) then .error .nameTooLong
  else
    match fs.lookup here with
    | some .directory =>
      if name = "." then .ok (.to here)
      else if name = ".." then .ok (.to here.dropLast)
      else if maxNameSize < name.utf8ByteSize then .error .nameTooLong
      else
        match fs.lookup (here ++ [name]) with
        | none => .error .notFound
        | some node => .ok (.ofNode (here ++ [name]) node)
    | some _ => .error .notADirectory
    | none => .error .notFound

/-- Walk from `here` through the given names. What to do at a link is a parameter: it gets the
location from which the target is read and the names that are still to be walked. -/
def walkFrom (fs : FileSystem) (fits : Location → Bool)
    (follow : Location → List String → Except FileError Location) :
    Location → List String → Except FileError Location
  | here, [] => .ok here
  | here, name :: rest =>
    match fs.enter fits here name with
    | .ok (.to location) => walkFrom fs fits follow location rest
    | .ok (.link target) => follow (if target.isAbsolute then [] else here) (target.steps ++ rest)
    | .error e => .error e

/-- Walk from `here` through the given names, following at most `links` links. -/
def walk (fs : FileSystem) (fits : Location → Bool) :
    (links : Nat) → Location → List String → Except FileError Location
  | 0 => walkFrom fs fits fun _ _ => .error .tooManyLinks
  | links + 1 => walkFrom fs fits (walk fs fits links)

/-- The location that a path leads to through locations that fit. -/
def resolveWithin (fs : FileSystem) (fits : Location → Bool) (path : Path) :
    Except FileError Location :=
  if path.toList.contains '\x00' then .error .nullInName
  else if path.isEmpty then .error .notFound
  else fs.walk fits maxLinks (if path.isAbsolute then [] else fs.cwd) path.steps

/-- The location of the file or directory that a path names, however long the path is. -/
def resolve (fs : FileSystem) (path : Path) : Except FileError Location :=
  fs.resolveWithin (fun _ => true) path

/-- The location of the file or directory that is opened by a path. -/
def locate (fs : FileSystem) (path : Path) : Except FileError Location :=
  -- a null character is noticed before the path is handed to the system
  if maxPathSize < path.utf8ByteSize && !path.toList.contains '\x00' then .error .nameTooLong
  else fs.resolve path

/-- Whether a location can be opened by its path from the root. -/
def isOpenable (location : Location) : Bool :=
  location.path.utf8ByteSize ≤ maxPathSize

/-- The path from the root, without links, of what a path names. Everything on the way is asked for
by its own path from the root, which may be too long even where the path is short. -/
def canonicalize (fs : FileSystem) (path : Path) : Except FileError Path :=
  (fs.resolveWithin isOpenable path).map Location.path

/-- The bytes of the file at a location. -/
def contentAt (fs : FileSystem) (location : Location) : Except FileError ByteArray :=
  match fs.lookup location with
  | some (.file content _) => .ok content
  | some .directory => .error .isADirectory
  | some (.link _) => .error .tooManyLinks
  | none => .error .notFound

/-- The bytes of the file that a path names. -/
def readBytes (fs : FileSystem) (path : Path) : Except FileError ByteArray :=
  fs.locate path >>= fs.contentAt

/-- The text of the file that a path names. -/
def readText (fs : FileSystem) (path : Path) : Except FileError Text :=
  match fs.readBytes path with
  | .ok bytes =>
    match Text.ofBytes? bytes with
    | some text => .ok text
    | none => .error .notText
  | .error e => .error e

/-- The location of the directory that a path names, if it names one. -/
def directory? (fs : FileSystem) (path : Path) : Option Location :=
  match fs.locate path with
  | .ok location => if fs.lookup location = some .directory then some location else none
  | .error _ => none

/-- The names of the files that stand in a directory, links and directories left out. -/
def fileNames (fs : FileSystem) (directory : Location) : List String :=
  let names := fs.nodes.filterMap fun (location, _) =>
    match location.getLast? with
    | some name => if location.dropLast = directory then some name else none
    | none => none
  names.eraseDups.filter fun name =>
    match fs.lookup (directory ++ [name]) with
    | some (.file _ _) => true
    | _ => false

/-- The file at a location with other bytes. -/
def setContent (fs : FileSystem) (location : Location) (content : ByteArray) : FileSystem :=
  { fs with
    nodes := fs.nodes.map fun (other, node) =>
      (other, if other = location then node.withContent content else node) }

/-- The file system with the file that is opened by a path replaced by one with other bytes and the
same mode. -/
def replace (fs : FileSystem) (path : Path) (content : ByteArray) : Except FileError FileSystem :=
  (fs.locate path).map fun location => fs.setContent location content

/-- The file system with a node put at a location. -/
def insert (fs : FileSystem) (location : Location) (node : Node) : FileSystem :=
  if fs.nodes.any fun (other, _) => other = location then
    { fs with
      nodes := fs.nodes.map fun (other, old) => (other, if other = location then node else old) }
  else { fs with nodes := fs.nodes ++ [(location, node)] }

/-- The file system with directories at a location and on the way to it, where nothing stands. -/
def insertDirectories (fs : FileSystem) (location : Location) : FileSystem :=
  (List.range (location.length + 1)).foldl
    (fun fs n =>
      if (fs.lookup (location.take n)).isNone then fs.insert (location.take n) .directory else fs)
    fs

/-- Directories lead to a name exactly when its directory stands and the name is one that can. -/
theorem isReached_concat (fs : FileSystem) (here : Location) (name : String) :
    fs.isReached (here ++ [name]) = (decide (fs.lookup here = some .directory) && isName name) := by
  have htake : ∀ n ∈ List.range here.length, (here ++ [name]).take n = here.take n := by
    intro n hn
    exact List.take_append_of_le_length (Nat.le_of_lt (List.mem_range.1 hn))
  have hall : ((List.range here.length).all fun n =>
      fs.listed ((here ++ [name]).take n) = some .directory) =
      (List.range here.length).all fun n => fs.listed (here.take n) = some .directory := by
    rw [Bool.eq_iff_iff, List.all_eq_true, List.all_eq_true]
    exact forall₂_congr fun n hn => by rw [htake n hn]
  have hsucc : fs.isReached (here ++ [name]) =
      (fs.isReached here && decide (fs.listed here = some .directory) && isName name) := by
    simp only [isReached, List.all_append, List.all_cons, List.all_nil, Bool.and_true,
      List.length_append, List.length_cons, List.length_nil, List.range_succ, hall,
      List.take_left]
    ac_rfl
  rw [hsucc, lookup]
  by_cases h : fs.isReached here <;> simp [h]

/-- A name stands in a directory, or nowhere. -/
theorem lookup_concat (fs : FileSystem) (here : Location) (name : String) :
    fs.lookup (here ++ [name]) =
      if fs.lookup here = some .directory ∧ isName name then fs.nodes.lookup (here ++ [name])
      else none := by
  rw [lookup, isReached_concat]
  by_cases h : fs.lookup here = some .directory ∧ isName name <;> simp [h, listed]

/-- What stands at a location is what is listed for it, and directories lead to it. -/
theorem lookup_eq_some_iff {fs : FileSystem} {location : Location} {node : Node} :
    fs.lookup location = some node ↔ fs.isReached location ∧ fs.listed location = some node := by
  unfold lookup
  split <;> simp_all

/-- Other bytes in the file at a location change what is listed for it, and nothing else. -/
theorem listed_setContent (fs : FileSystem) (location other : Location) (content : ByteArray) :
    (fs.setContent location content).listed other =
      (fs.listed other).map fun node =>
        if other = location then node.withContent content else node := by
  unfold listed setContent
  by_cases root : other = []
  · simp [root, Node.withContent]
  · simp only [root, if_false]
    induction fs.nodes with
    | nil => simp
    | cons entry rest ih =>
      obtain ⟨key, node⟩ := entry
      by_cases same : other = key
      · subst same; simp
      · simp only [List.map_cons, List.lookup_cons]
        have : (other == key) = false := by simpa using same
        simp only [this]
        exact ih

/-- Other bytes in the file at a location change what stands there, and nothing else. -/
theorem lookup_setContent (fs : FileSystem) (location other : Location) (content : ByteArray) :
    (fs.setContent location content).lookup other =
      (fs.lookup other).map fun node =>
        if other = location then node.withContent content else node := by
  have hreached : (fs.setContent location content).isReached other = fs.isReached other := by
    unfold isReached
    congr 2
    funext n
    rw [listed_setContent]
    cases fs.listed (other.take n) with
    | none => rfl
    | some node => by_cases h : other.take n = location <;> simp [h]
  unfold lookup
  rw [hreached, listed_setContent]
  split <;> rfl

end FileSystem

end Graft
