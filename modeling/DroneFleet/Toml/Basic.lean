/-!
Configuration documents: tables of named values. A table remembers how it came about, because that
decides who may still add to it.
-/
namespace DroneFleet.Toml

/-- How a table came about: under its own header, on the way to a longer header, by a dotted key, or
written out in braces. -/
inductive Origin where
  | header
  | implied
  | dotted
  | inline
deriving DecidableEq, Repr

end DroneFleet.Toml

namespace DroneFleet

/-- A value. Numbers with a fraction and points in time are only recognised. An array of tables is one
that headers add to. -/
inductive Toml where
  | text (value : String)
  | integer (value : Int)
  | float
  | boolean (value : Bool)
  | moment
  | array (items : List Toml) (ofTables : Bool)
  | table (origin : Toml.Origin) (entries : List (String × Toml))
deriving Inhabited

namespace Toml

abbrev Entries := List (String × Toml)

def Entries.replace (entries : Entries) (key : String) (value : Toml) : Entries :=
  entries.map fun entry => if entry.1 = key then (key, value) else entry

/-- Changes the table to which a path leads. Missing tables are made on the way. An array of tables
stands for its last table, a table in braces is closed, and dotted keys (`dotted`) do not go through
a table that has a header of its own. -/
def within (dotted : Bool) (act : Origin → Entries → Option Entries) :
    List String → Origin → Entries → Option Entries
  | [], origin, entries => act origin entries
  | key :: path, _, entries =>
    match entries.lookup key with
    | none => do
      let origin := if dotted then .dotted else .implied
      let inner ← within dotted act path origin []
      return entries ++ [(key, table origin inner)]
    | some (table .inline _) => none
    | some (table .header inner) =>
      if dotted then none
      else do
        let inner ← within dotted act path .header inner
        return entries.replace key (table .header inner)
    | some (table origin inner) => do
      let inner ← within dotted act path origin inner
      return entries.replace key (table origin inner)
    | some (array items true) =>
      match items.getLast? with
      | some (table origin inner) => do
        let inner ← within dotted act path origin inner
        return entries.replace key (array (items.dropLast ++ [table origin inner]) true)
      | _ => none
    | some _ => none

/-- Adds a value under a new key; a dotted key adds only to a table that dotted keys have made. -/
def put (dotted : Bool) (key : String) (value : Toml) (origin : Origin) (entries : Entries) :
    Option Entries :=
  if (origin = .dotted) = (dotted = true) ∧ (entries.lookup key).isNone then
    some (entries ++ [(key, value)])
  else none

def assign (path : List String) (value : Toml) (origin : Origin) (entries : Entries) :
    Option Entries :=
  match path.getLast? with
  | none => none
  | some key =>
    let dotted := 1 < path.length
    within true (put dotted key value) path.dropLast origin entries

/-- Opens a table under its header, once. What longer headers have put into it stays. -/
def openTable (key : String) (_ : Origin) (entries : Entries) : Option Entries :=
  match entries.lookup key with
  | none => some (entries ++ [(key, table .header [])])
  | some (table .implied inner) => some (entries.replace key (table .header inner))
  | some _ => none

def openItem (key : String) (_ : Origin) (entries : Entries) : Option Entries :=
  match entries.lookup key with
  | none => some (entries ++ [(key, array [table .header []] true)])
  | some (array items true) => some (entries.replace key (array (items ++ [table .header []]) true))
  | some _ => none

end Toml

end DroneFleet
