import PackageCoverage.Binary64.Basic

/-!
# Values and tables

A document is a table, and a table is a list of keys with their values in the
order in which the document brings them in.  How a table came about decides what
may be added to it later: a table is written only once, in one place, though the
tables that lead to it may be named any number of times.
-/

namespace PackageCoverage.Toml

/-- How a table came about. -/
inductive Origin where
  /-- It has a header of its own, or is the document itself. -/
  | header
  /-- It only leads to a table with a header. -/
  | path
  /-- It only leads to the value of a dotted key. -/
  | dotted
  /-- It is written between braces. -/
  | braces
deriving DecidableEq

/-- A value of a document. -/
inductive Value where
  | string (text : String)
  | integer (value : Int)
  | float (value : Binary64)
  | boolean (value : Bool)
  /-- A date, a time of day, or both; no setting has a use for its parts. -/
  | dateTime
  | array (elements : List Value)
  | table (origin : Origin) (entries : List (String × Value))
  /-- An array of tables that have a header each. -/
  | tables (elements : List (List (String × Value)))

/-- The keys and values of a table. -/
abbrev Entries := List (String × Value)

namespace Entries

/-- The entries with another value for a key that has one. -/
def replace (entries : Entries) (key : String) (value : Value) : Entries :=
  entries.map fun entry => if entry.1 = key then (key, value) else entry

/-- The entries with one more; a key has one value only. -/
def add (entries : Entries) (key : String) (value : Value) : Option Entries :=
  if (entries.lookup key).isSome then none else some (entries ++ [(key, value)])

/-- Adds the value of a dotted key, whose last part is `key`.  The tables that the
other parts name are made on the way; one that has a header or braces, or that
ends the way and was not made by a dotted key, is closed to it. -/
def addDotted (key : String) (value : Value) : List String → Entries → Option Entries
  | [], entries => entries.add key value
  | name :: way, entries =>
    match entries.lookup name with
    | none => do
      return entries ++ [(name, .table .dotted (← addDotted key value way []))]
    | some (.table origin inner) => do
      if origin = .header ∨ origin = .braces ∨ way.isEmpty ∧ origin ≠ .dotted then none
      return entries.replace name (.table origin (← addDotted key value way inner))
    | some (.tables elements) => do
      if way.isEmpty then none
      let inner ← addDotted key value way (← elements.getLast?)
      return entries.replace name (.tables (elements.dropLast ++ [inner]))
    | some _ => none

/-- Changes the entries of the table to which a header leads.  An array of tables
leads to its last element, and a table that is not there yet is made. -/
def changeAt (change : Entries → Option Entries) : List String → Entries → Option Entries
  | [], entries => change entries
  | name :: way, entries =>
    match entries.lookup name with
    | none => do return entries ++ [(name, .table .path (← changeAt change way []))]
    | some (.table .braces _) => none
    | some (.table origin inner) => do
      return entries.replace name (.table origin (← changeAt change way inner))
    | some (.tables elements) => do
      let inner ← changeAt change way (← elements.getLast?)
      return entries.replace name (.tables (elements.dropLast ++ [inner]))
    | some _ => none

/-- Gives a table its header.  A table that only led to others so far moves to the
end and keeps them; any other value of the key is in the way. -/
def openTable (key : String) (entries : Entries) : Option Entries :=
  match entries.lookup key with
  | none => some (entries ++ [(key, .table .header [])])
  | some (.table .path inner) =>
    some (entries.filter (·.1 ≠ key) ++ [(key, .table .header inner)])
  | some _ => none

/-- Adds an empty table to an array of tables. -/
def openElement (key : String) (entries : Entries) : Option Entries :=
  match entries.lookup key with
  | none => some (entries ++ [(key, .tables [[]])])
  | some (.tables elements) => some (entries.replace key (.tables (elements ++ [[]])))
  | some _ => none

end Entries

end PackageCoverage.Toml
