import Graft.Condition.Spec
import Graft.Edit
import Graft.Event
import Graft.FileSystem.Path

/-!
# Command lines

The arguments of the program as a request. Options may be abbreviated to a letter, letters can share
a dash, and a value follows an option as the next argument, after an equals sign, or right after its
letter. Only a condition may start with a dash as an argument of its own. After two dashes, every
argument is positional. Arguments are read from the left, and the first one that is wrong or that is
answered at once decides; what is missing altogether is noticed at the end.

* `Invocation.ofArguments`: what is asked for, or that the arguments ask for nothing sensible.
-/

namespace Graft

/-- Where the block of an insertion comes from. -/
inductive BlockArgument
  /-- The text of the block. -/
  | text (text : Text)
  /-- The file that holds the text. -/
  | file (path : Path)
  deriving DecidableEq, Repr

/-- What the program is asked to do. -/
inductive Request
  /-- Insert a block into one file. -/
  | insert (file : Path) (conditions : List Condition) (block : BlockArgument)
      (placement : Placement) (skipIfPresent : Bool) (mode : Mode) (diff : Bool)
  /-- Apply a patch file, or all patch files of a directory. -/
  | apply (config : Path) (workspace : Option Path) (mode : Mode) (diff : Bool)
  /-- Report what applying would do. -/
  | check (config : Path) (workspace : Option Path)
  deriving DecidableEq, Repr

/-- What a command line asks for. -/
inductive Invocation
  /-- The version of the program. -/
  | version
  /-- How the program is used. -/
  | help
  /-- A request; log lines are printed if it is verbose. -/
  | request (request : Request) (verbose : Bool)
  deriving DecidableEq, Repr

namespace Command

/-- What a value has to be. -/
inductive Kind
  /-- Any text. -/
  | text
  /-- A path, which is not empty. -/
  | path
  /-- A written condition. -/
  | condition
  deriving DecidableEq, Repr

/-- Whether a value is of a kind. -/
def Kind.admits : Kind → String → Bool
  | text, _ => true
  | path, value => !value.isEmpty
  | condition, value => (Condition.ofSpec value.toList).isOk

/-- What an option takes. -/
inductive Arity
  /-- Nothing. -/
  | flag
  /-- One value. -/
  | single (kind : Kind)
  /-- A value each time it is given, which may start with a dash. -/
  | repeated (kind : Kind)
  /-- Nothing; the option is answered at once. -/
  | answer
  deriving DecidableEq, Repr

/-- An option of a command. -/
structure Switch where
  /-- Its name, which follows two dashes. -/
  name : String
  /-- Its letter, which follows one dash. -/
  letter : Option Char := none
  /-- What it takes. -/
  arity : Arity
  deriving DecidableEq, Repr

namespace Switch

/-- Whether the option waits for a value. -/
def takesValue (switch : Switch) : Bool :=
  match switch.arity with
  | .single _ | .repeated _ => true
  | .flag | .answer => false

/-- Whether the option can be given again, and with values that start with a dash. -/
def isRepeated (switch : Switch) : Bool :=
  match switch.arity with
  | .repeated _ => true
  | _ => false

/-- Whether the option can have this value; one without values has the empty text for it. -/
def admits (switch : Switch) (value : String) : Bool :=
  match switch.arity with
  | .single kind | .repeated kind => kind.admits value
  | .flag | .answer => true

end Switch

/-- What a command is called with. -/
structure Usage where
  /-- Its options. -/
  switches : List Switch
  /-- How many paths it takes besides. -/
  paths : Nat
  deriving DecidableEq, Repr

/-- Why arguments are not read to their end. -/
inductive Stop
  /-- They ask for nothing sensible. -/
  | misuse
  /-- An option is answered at once. -/
  | answered (name : String)
  deriving DecidableEq, Repr

/-- What arguments give. -/
structure Given where
  /-- The options with their values, in order; a flag has an empty value. -/
  options : List (String × String) := []
  /-- The other arguments, in order. -/
  positionals : List String := []
  deriving DecidableEq, Repr

namespace Given

/-- All values of an option. -/
def values (given : Given) (name : String) : List String :=
  (given.options.filter fun (other, _) => other = name).map Prod.snd

/-- The value of an option that is given at most once. -/
def value? (given : Given) (name : String) : Option String :=
  (given.values name).head?

/-- Whether an option is given. -/
def has (given : Given) (name : String) : Bool :=
  !(given.values name).isEmpty

end Given

/-- Whether an argument starts with a dash and is more than that. -/
def isDashed (argument : String) : Bool :=
  match argument.toList with
  | '-' :: _ :: _ => true
  | _ => false

/-- One more option with its value. Only a repeated option may be given again, and one that is
answered at once ends the reading. -/
def Given.give (given : Given) (switch : Switch) (value : String) : Except Stop Given :=
  if switch.arity = .answer then .error (.answered switch.name)
  else if !switch.admits value || (!switch.isRepeated && given.has switch.name) then .error .misuse
  else .ok { given with options := given.options ++ [(switch.name, value)] }

/-- One more positional argument, a path, if there is room for it. -/
def Given.place (given : Given) (usage : Usage) (argument : String) : Except Stop Given :=
  if given.positionals.length < usage.paths && Kind.path.admits argument then
    .ok { given with positionals := given.positionals ++ [argument] }
  else .error .misuse

/-- Read the options that share one dash; the last one may be left waiting for its value. -/
def letters (switches : List Switch) (given : Given) :
    Text → Except Stop (Given × Option Switch)
  | [] => .ok (given, none)
  | letter :: rest =>
    match switches.find? fun switch => switch.letter = some letter with
    | none => .error .misuse
    | some switch =>
      if switch.takesValue then
        match rest with
        | [] => .ok (given, some switch)
        | '=' :: value => (given.give switch (String.ofList value)).map (·, none)
        | value => (given.give switch (String.ofList value)).map (·, none)
      else
        match given.give switch "" with
        | .ok given => letters switches given rest
        | .error stop => .error stop

/-- Read the option that two dashes and this text name; without a value it may be left waiting for
one. -/
def long (switches : List Switch) (given : Given) (text : Text) :
    Except Stop (Given × Option Switch) :=
  let (name, value?) := match Text.cut? '=' text with
    | some (name, value) => (name, some (String.ofList value))
    | none => (text, none)
  match switches.find? fun switch => switch.name = String.ofList name with
  | none => .error .misuse
  | some switch =>
    match switch.takesValue, value? with
    | true, some value => (given.give switch value).map (·, none)
    | true, none => .ok (given, some switch)
    | false, some _ => .error .misuse
    | false, none => (given.give switch "").map (·, none)

/-- Read arguments one after another. After two dashes everything is positional; an option may be
waiting for its value. -/
def scan (usage : Usage) (given : Given) :
    (positionalOnly : Bool) → (waiting : Option Switch) → List String → Except Stop Given
  | _, none, [] => .ok given
  | _, some _, [] => .error .misuse
  | positionalOnly, some switch, argument :: rest => do
    if !switch.isRepeated && isDashed argument then throw .misuse
    scan usage (← given.give switch argument) positionalOnly none rest
  | true, none, argument :: rest => do
    scan usage (← given.place usage argument) true none rest
  | false, none, argument :: rest => do
    match argument.toList with
    | ['-', '-'] => scan usage given true none rest
    | '-' :: '-' :: text =>
      let (given, waiting) ← long usage.switches given text
      scan usage given false waiting rest
    | '-' :: letter :: text =>
      let (given, waiting) ← letters usage.switches given (letter :: text)
      scan usage given false waiting rest
    | _ => scan usage (← given.place usage argument) false none rest

/-- The option for log lines, which may stand before and after the name of a command. -/
def Switch.verbose : Switch := ⟨"verbose", some 'v', .flag⟩

/-- The option for the usage of the program or of a command. -/
def Switch.help : Switch := ⟨"help", some 'h', .answer⟩

/-- The option for the version of the program. -/
def Switch.version : Switch := ⟨"version", some 'V', .answer⟩

/-- The option for a preview. -/
def Switch.dryRun : Switch := ⟨"dry-run", some 'n', .flag⟩

/-- The option for the change of each file. -/
def Switch.diff : Switch := ⟨"diff", some 'd', .flag⟩

/-- The option for the directory that target files are read from. -/
def Switch.workspace : Switch := ⟨"workspace", some 'w', .single .path⟩

/-- How the program is called before the name of a command. -/
def leadingUsage : Usage :=
  ⟨[.verbose, .help, .version], 0⟩

/-- How an insertion is called. -/
def insertUsage : Usage :=
  ⟨[.verbose, .help, ⟨"file", some 'f', .single .path⟩, ⟨"when", none, .repeated .condition⟩,
    ⟨"text", none, .single .text⟩, ⟨"block-file", none, .single .path⟩, ⟨"before", none, .flag⟩,
    ⟨"force", none, .flag⟩, .dryRun, .diff], 0⟩

/-- How the application of patch files is called. -/
def applyUsage : Usage :=
  ⟨[.verbose, .help, .workspace, .dryRun, .diff], 1⟩

/-- How the check of patch files is called. -/
def checkUsage : Usage :=
  ⟨[.verbose, .help, .workspace], 1⟩

/-- A path must not be empty. -/
def path? (value : String) : Option Path :=
  if value.isEmpty then none else some value

/-- The path that an option gives, if it is given. -/
def optionalPath? (given : Given) (name : String) : Option (Option Path) :=
  match given.value? name with
  | some value => (path? value).map some
  | none => some none

/-- Whether a run writes. -/
def mode (given : Given) : Mode :=
  if given.has Switch.dryRun.name then .preview else .apply

/-- The condition that an argument is written for. -/
def condition? (argument : String) : Option Condition :=
  (Condition.ofSpec argument.toList).toOption

/-- The block that the options give; it has exactly one source. -/
def block? (given : Given) : Option BlockArgument :=
  match given.value? "text", given.value? "block-file" with
  | some text, none => some (.text text.toList)
  | none, some path => (path? path).map .file
  | _, _ => none

/-- The insertion that the arguments ask for. -/
def insertRequest? (given : Given) : Option Request := do
  let file ← (given.value? "file").bind path?
  let conditions ← (given.values "when").mapM condition?
  if conditions.isEmpty || !given.positionals.isEmpty then failure
  let block ← block? given
  let placement := if given.has "before" then Placement.before else .after
  return .insert file conditions block placement (!given.has "force") (mode given)
    (given.has Switch.diff.name)

/-- The patch file or directory that the arguments name. -/
def config? (given : Given) : Option Path :=
  match given.positionals with
  | [config] => path? config
  | _ => none

/-- The application of patch files that the arguments ask for. -/
def applyRequest? (given : Given) : Option Request := do
  return .apply (← config? given) (← optionalPath? given Switch.workspace.name) (mode given)
    (given.has Switch.diff.name)

/-- The check of patch files that the arguments ask for. -/
def checkRequest? (given : Given) : Option Request := do
  return .check (← config? given) (← optionalPath? given Switch.workspace.name)

/-- What the arguments after the name of a command ask for. -/
def ofCommand? (isVerbose : Bool) (usage : Usage) (request? : Given → Option Request)
    (arguments : List String) : Option Invocation :=
  match scan usage {} false none arguments with
  | .ok given => (request? given).map (.request · (isVerbose || given.has Switch.verbose.name))
  | .error (.answered _) => some .help
  | .error .misuse => none

/-- The names of the commands. -/
def names : List String := ["insert", "apply", "check", "help"]

end Command

open Command

/-- What the arguments of the program ask for, if they ask for anything sensible. -/
def Invocation.ofArguments (arguments : List String) : Option Invocation :=
  let leading := arguments.takeWhile isDashed
  match scan leadingUsage {} false none leading with
  | .error (.answered name) => some (if name = Switch.version.name then .version else .help)
  | .error .misuse => none
  | .ok given =>
    let isVerbose := given.has Switch.verbose.name
    match arguments.drop leading.length with
    | [] => none
    | name :: rest =>
      if leading.contains "--" then none
      else if name = "insert" then ofCommand? isVerbose insertUsage insertRequest? rest
      else if name = "apply" then ofCommand? isVerbose applyUsage applyRequest? rest
      else if name = "check" then ofCommand? isVerbose checkUsage checkRequest? rest
      else if name = "help" && rest.length ≤ 1 && rest.all names.contains then some .help
      else none

end Graft
