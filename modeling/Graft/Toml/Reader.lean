import Graft.Toml.Scalar

/-!
# Reading TOML

The lines of a TOML document, read from its text: headers, array headers, and keys with their
values. A reader takes a text and returns what it read with the rest, or nothing where the text is
no TOML.
-/

namespace Graft.Toml

/-- A line of a document. -/
inductive Statement
  /-- A header `[path]`. -/
  | header (path : List String)
  /-- An array header `[[path]]`. -/
  | arrayHeader (path : List String)
  /-- A key with its value. -/
  | assignment (path : List String) (value : Value)

namespace Reader

/-- How deep arrays and inline tables can be nested, and how many keys dots can put together. -/
def maxDepth : Nat := 80

/-- A space or a tab. -/
def isSpace (c : Char) : Bool :=
  c = ' ' || c = '\t'

/-- A character that strings and comments may hold as it is: no control but the tab. -/
def isPlain (c : Char) : Bool :=
  c = '\t' || (0x20 ≤ c.toNat && c.toNat ≠ 0x7F)

/-- The text after its spaces and tabs. -/
def skipSpaces (t : Text) : Text :=
  t.dropWhile isSpace

/-- The text after its spaces, newlines and comments. -/
def skipFiller : (inComment : Bool) → Text → Option Text
  | _, [] => some []
  | _, '\n' :: t => skipFiller false t
  | _, '\r' :: '\n' :: t => skipFiller false t
  | true, c :: t => if isPlain c then skipFiller true t else none
  | false, '#' :: t => skipFiller true t
  | false, c :: t => if isSpace c then skipFiller false t else some (c :: t)

/-- The text after the end of the line, before which only spaces and a comment may stand. -/
def skipLineEnd : (inComment : Bool) → Text → Option Text
  | _, [] => some []
  | _, '\n' :: t => some t
  | _, '\r' :: '\n' :: t => some t
  | true, c :: t => if isPlain c then skipLineEnd true t else none
  | false, '#' :: t => skipLineEnd true t
  | false, c :: t => if isSpace c then skipLineEnd false t else none

/-- The character that a letter after a backslash stands for. -/
def escape? : Char → Option Char
  | 'b' => some '\x08'
  | 't' => some '\t'
  | 'n' => some '\n'
  | 'f' => some '\x0c'
  | 'r' => some '\r'
  | 'e' => some '\x1b'
  | '"' => some '"'
  | '\\' => some '\\'
  | _ => none

/-- The character with a code point in hexadecimal. -/
def codePoint? (digits : Text) : Option Char :=
  let n := Scalar.ofDigits 16 digits
  if digits.all (Scalar.isDigitOf 16) && (n < 0xD800 || (0xDFFF < n && n < 0x110000)) then
    some (Char.ofNat n)
  else none

/-- The character after a backslash, with the rest. -/
def escaped : Text → Option (Char × Text)
  | 'x' :: t => if t.length < 2 then none else (codePoint? (t.take 2)).map (·, t.drop 2)
  | 'u' :: t => if t.length < 4 then none else (codePoint? (t.take 4)).map (·, t.drop 4)
  | 'U' :: t => if t.length < 8 then none else (codePoint? (t.take 8)).map (·, t.drop 8)
  | c :: t => (escape? c).map (·, t)
  | [] => none

/-- The rest of a string between single double quotes. -/
def basicString : (fuel : Nat) → Text → Option (Text × Text)
  | 0, _ => none
  | _ + 1, [] => none
  | _ + 1, '"' :: t => some ([], t)
  | fuel + 1, '\\' :: t => do
    let (c, t) ← escaped t
    let (text, t) ← basicString fuel t
    return (c :: text, t)
  | fuel + 1, c :: t => do
    if !isPlain c then failure
    let (text, t) ← basicString fuel t
    return (c :: text, t)

/-- The rest of a string between single quotes. -/
def literalString : Text → Option (Text × Text)
  | [] => none
  | '\'' :: t => some ([], t)
  | c :: t => do
    if !isPlain c then failure
    let (text, t) ← literalString t
    return (c :: text, t)

/-- The end of a multi-line string: three quotes, and up to two more that belong to the string. -/
def closing? (quote : Char) (t : Text) : Option (Text × Text) :=
  let run := (t.takeWhile (· = quote)).length
  if run < 3 then none
  else
    let extra := min (run - 3) 2
    some (List.replicate extra quote, t.drop (extra + 3))

/-- Whether nothing but spaces stands before the end of the line. -/
def endsLine (t : Text) : Bool :=
  match skipSpaces t with
  | '\n' :: _ | '\r' :: '\n' :: _ => true
  | _ => false

/-- The text after its spaces and newlines. -/
def skipBreaks : Text → Text
  | '\r' :: '\n' :: t => skipBreaks t
  | c :: t => if isSpace c || c = '\n' then skipBreaks t else c :: t
  | [] => []

/-- The rest of a string between three double quotes. A backslash at the end of a line takes the
spaces and newlines after it away. -/
def basicLines : (fuel : Nat) → Text → Option (Text × Text)
  | 0, _ => none
  | fuel + 1, t => do
    match closing? '"' t with
    | some result => return result
    | none =>
      match t with
      | [] => failure
      | '\\' :: t =>
        if endsLine t then basicLines fuel (skipBreaks t)
        else
          let (c, t) ← escaped t
          let (text, t) ← basicLines fuel t
          return (c :: text, t)
      | '\r' :: '\n' :: t =>
        let (text, t) ← basicLines fuel t
        return ('\r' :: '\n' :: text, t)
      | c :: t =>
        if !isPlain c && c ≠ '\n' then failure
        let (text, t) ← basicLines fuel t
        return (c :: text, t)

/-- The rest of a string between three single quotes. -/
def literalLines : (fuel : Nat) → Text → Option (Text × Text)
  | 0, _ => none
  | fuel + 1, t => do
    match closing? '\'' t with
    | some result => return result
    | none =>
      match t with
      | [] => failure
      | '\r' :: '\n' :: t =>
        let (text, t) ← literalLines fuel t
        return ('\r' :: '\n' :: text, t)
      | c :: t =>
        if !isPlain c && c ≠ '\n' then failure
        let (text, t) ← literalLines fuel t
        return (c :: text, t)

/-- A newline right after the opening quotes does not belong to the string. -/
def skipFirstBreak : Text → Text
  | '\n' :: t => t
  | '\r' :: '\n' :: t => t
  | t => t

/-- A character of a key without quotes. -/
def isBare (c : Char) : Bool :=
  c.isAlphanum || c = '_' || c = '-'

/-- One key: bare, or a string on one line. -/
def key : Text → Option (String × Text)
  | '"' :: t => do
    let (text, t) ← basicString (t.length + 1) t
    return (String.ofList text, t)
  | '\'' :: t => do
    let (text, t) ← literalString t
    return (String.ofList text, t)
  | t =>
    let bare := t.takeWhile isBare
    if bare.isEmpty then none else some (String.ofList bare, t.drop bare.length)

/-- At most `count` keys with dots between them, spaces around all of them skipped. -/
def keysUpTo : (count : Nat) → Text → Option (List String × Text)
  | 0, _ => none
  | count + 1, t => do
    let (first, t) ← key (skipSpaces t)
    match skipSpaces t with
    | '.' :: t =>
      let (rest, t) ← keysUpTo count t
      return (first :: rest, t)
    | t => return ([first], t)

/-- A dotted key. -/
def keys (t : Text) : Option (List String × Text) :=
  keysUpTo maxDepth t

/-- A character of a word: what numbers, moments and truth values are written with. -/
def isWordChar (c : Char) : Bool :=
  isBare c || c = '+' || c = '.' || c = ':'

/-- A bare word. A date and a time may have one space between them. -/
def word (t : Text) : Text × Text :=
  let first := t.takeWhile isWordChar
  let rest := t.drop first.length
  match rest with
  | ' ' :: c :: more =>
    if first.length = 10 && Scalar.startsAsDate first && c.isDigit then
      let second := (c :: more).takeWhile isWordChar
      (first ++ ' ' :: second, (c :: more).drop second.length)
    else (first, rest)
  | _ => (first, rest)

mutual

/-- A value. -/
def value : (fuel depth : Nat) → Text → Option (Value × Text)
  | 0, _, _ => none
  | fuel + 1, depth, t => do
    match t with
    | '"' :: '"' :: '"' :: t =>
      let (text, t) ← basicLines (t.length + 1) (skipFirstBreak t)
      return (.string text, t)
    | '"' :: t =>
      let (text, t) ← basicString (t.length + 1) t
      return (.string text, t)
    | '\'' :: '\'' :: '\'' :: t =>
      let (text, t) ← literalLines (t.length + 1) (skipFirstBreak t)
      return (.string text, t)
    | '\'' :: t =>
      let (text, t) ← literalString t
      return (.string text, t)
    | '[' :: t =>
      if maxDepth ≤ depth then failure
      let (found, t) ← elements fuel (depth + 1) t
      return (.array false found, t)
    | '\x7b' :: t =>
      if maxDepth ≤ depth then failure
      let (found, t) ← assignments fuel (depth + 1) t
      let entries ← found.foldlM (fun entries (path, v) => Entries.addDotted path v entries) []
      return (.table .inline entries, t)
    | t =>
      let (found, t) := word t
      return (← Scalar.ofWord? found, t)

/-- The elements of an array up to its closing bracket. -/
def elements : (fuel depth : Nat) → Text → Option (List Value × Text)
  | 0, _, _ => none
  | fuel + 1, depth, t => do
    match ← skipFiller false t with
    | ']' :: t => return ([], t)
    | t =>
      let (first, t) ← value fuel depth t
      match ← skipFiller false t with
      | ',' :: t =>
        let (rest, t) ← elements fuel depth t
        return (first :: rest, t)
      | ']' :: t => return ([first], t)
      | _ => failure

/-- The keys and values of an inline table up to its closing brace. Newlines and comments may stand
everywhere but inside a dotted key. -/
def assignments : (fuel depth : Nat) → Text → Option (List (List String × Value) × Text)
  | 0, _, _ => none
  | fuel + 1, depth, t => do
    match ← skipFiller false t with
    | '\x7d' :: t => return ([], t)
    | t =>
      let (path, t) ← keys t
      let '=' :: t ← skipFiller false t | failure
      let (v, t) ← value fuel depth (← skipFiller false t)
      match ← skipFiller false t with
      | ',' :: t =>
        let (rest, t) ← assignments fuel depth t
        return ((path, v) :: rest, t)
      | '\x7d' :: t => return ([(path, v)], t)
      | _ => failure

end

/-- A line of a document that starts with something other than filler. -/
def statement (t : Text) : Option (Statement × Text) := do
  match t with
  | '[' :: '[' :: t =>
    let (path, t) ← keys t
    let ']' :: ']' :: t := t | failure
    return (.arrayHeader path, ← skipLineEnd false t)
  | '[' :: t =>
    let (path, t) ← keys t
    let ']' :: t := t | failure
    return (.header path, ← skipLineEnd false t)
  | t =>
    let (path, t) ← keys t
    let '=' :: t := t | failure
    let (v, t) ← value (2 * t.length + 2) 0 (skipSpaces t)
    return (.assignment path v, ← skipLineEnd false t)

/-- The lines of a document. -/
def statements : (fuel : Nat) → Text → Option (List Statement)
  | 0, _ => none
  | fuel + 1, t => do
    match ← skipFiller false t with
    | [] => return []
    | t =>
      let (first, t) ← statement t
      return first :: (← statements fuel t)

end Reader

/-- What a document holds after some of its lines, and the header whose table the next line adds
to. -/
structure Draft where
  /-- The entries so far. -/
  entries : Entries
  /-- The path of the last header. -/
  path : List String

/-- A document with one more line. -/
def Draft.add (draft : Draft) : Statement → Option Draft
  | .header path => do
    let key ← path.getLast?
    return ⟨← draft.entries.atHeader (Entries.openTable key) path.dropLast, path⟩
  | .arrayHeader path => do
    let key ← path.getLast?
    return ⟨← draft.entries.atHeader (Entries.openElement key) path.dropLast, path⟩
  | .assignment path value => do
    let entries ← draft.entries.atHeader (Entries.addDotted path value) draft.path
    return { draft with entries := entries }

/-- The entries of the document with the given text, when the text is TOML. A byte order mark at its
start is skipped. -/
def ofText? (text : Text) : Option Entries := do
  let text := match text with
    | '\uFEFF' :: rest => rest
    | _ => text
  let statements ← Reader.statements (text.length + 1) text
  let draft ← statements.foldlM Draft.add ⟨[], []⟩
  return draft.entries

end Graft.Toml
