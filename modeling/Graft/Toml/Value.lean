import Graft.Decimal
import Graft.Text.Quoted

/-!
# TOML values

The values of a TOML document. Tables and arrays remember how they came to be, because this decides
what a later line of the document may add to them.
-/

namespace Graft.Toml

/-- How a table came to be. -/
inductive Origin
  /-- A header or an array header below it named it in passing. -/
  | implied
  /-- A header of its own. -/
  | header
  /-- A dotted key. -/
  | dotted
  /-- Braces; nothing can be added. -/
  | inline
  deriving DecidableEq, Repr

/-- A TOML value. -/
inductive Value
  /-- A string. -/
  | string (text : Text)
  /-- An integer. -/
  | integer (value : Int64)
  /-- A floating-point number. -/
  | float (value : Float)
  /-- A boolean. -/
  | boolean (value : Bool)
  /-- A date, a time, or both, as it is written. -/
  | moment (text : Text)
  /-- An array; one that array headers made can grow. -/
  | array (growing : Bool) (elements : List Value)
  /-- A table, with its entries in the order of the document. -/
  | table (origin : Origin) (entries : List (String × Value))

/-- The entries of a table, in the order of the document. -/
abbrev Entries := List (String × Value)

namespace Value

/-- What kind of value this is, in the words of a message. -/
def describe : Value → String
  | string text => "string " ++ text.quoted
  | integer value => s!"integer `{value}`"
  | float value => "floating point `" ++ Decimal.ofFloat value ++ "`"
  | boolean value => s!"boolean `{value}`"
  | array _ _ => "sequence"
  | moment _ | table _ _ => "map"

end Value

namespace Entries

/-- The entries with the value of a key replaced, or a new entry at the end. -/
def put (key : String) (value : Value) : Entries → Entries
  | [] => [(key, value)]
  | (other, old) :: rest =>
    if other = key then (key, value) :: rest else (other, old) :: put key value rest

/-- The entries with a new one at the end; a key that is there already is refused. -/
def add (key : String) (value : Value) (entries : Entries) : Option Entries :=
  if (entries.lookup key).isSome then none else some (entries ++ [(key, value)])

/-- Change the last table of an array of tables. -/
def changeLast (change : Entries → Option Entries) (elements : List Value) :
    Option (List Value) := do
  match elements.getLast? with
  | some (.table origin inner) =>
    let inner ← change inner
    return elements.dropLast ++ [.table origin inner]
  | _ => failure

/-- Change the table that dotted keys name. Missing tables on the way are made; only tables that
dotted keys made can be changed. On the way to them, a table that headers implied and the last table
of a growing array can be entered. -/
def atDotted (change : Entries → Option Entries) : List String → Entries → Option Entries
  | [], entries => change entries
  | key :: rest, entries => do
    match entries.lookup key with
    | none =>
      let inner ← atDotted change rest []
      return entries.put key (.table .dotted inner)
    | some (.table .dotted inner) =>
      let inner ← atDotted change rest inner
      return entries.put key (.table .dotted inner)
    | some (.table .implied inner) =>
      if rest.isEmpty then failure
      let inner ← atDotted change rest inner
      return entries.put key (.table .implied inner)
    | some (.array true elements) =>
      if rest.isEmpty then failure
      let elements ← changeLast (atDotted change rest) elements
      return entries.put key (.array true elements)
    | some _ => failure

/-- Add the value of a dotted key. -/
def addDotted (path : List String) (value : Value) (entries : Entries) : Option Entries := do
  let key ← path.getLast?
  entries.atDotted (add key value) path.dropLast

/-- Change the table that the keys of a header name. Missing tables on the way are implied; of a
growing array the last table is entered. -/
def atHeader (change : Entries → Option Entries) : List String → Entries → Option Entries
  | [], entries => change entries
  | key :: rest, entries => do
    match entries.lookup key with
    | none =>
      let inner ← atHeader change rest []
      return entries.put key (.table .implied inner)
    | some (.table .inline _) => failure
    | some (.table origin inner) =>
      let inner ← atHeader change rest inner
      return entries.put key (.table origin inner)
    | some (.array true elements) =>
      let elements ← changeLast (atHeader change rest) elements
      return entries.put key (.array true elements)
    | some _ => failure

/-- Open the table of a header. A table that was only implied so far is opened once and moves to the
end of its entries. -/
def openTable (key : String) (entries : Entries) : Option Entries :=
  match entries.lookup key with
  | none => some (entries ++ [(key, .table .header [])])
  | some (.table .implied inner) =>
    some ((entries.filter fun (other, _) => other ≠ key) ++ [(key, .table .header inner)])
  | some _ => none

/-- Open one more table in the growing array of an array header. -/
def openElement (key : String) (entries : Entries) : Option Entries :=
  match entries.lookup key with
  | none => some (entries ++ [(key, .array true [.table .header []])])
  | some (.array true elements) =>
    some (entries.put key (.array true (elements ++ [.table .header []])))
  | some _ => none

end Entries

end Graft.Toml
